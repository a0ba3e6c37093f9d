import Emend.Proofs.Document.Usable
import Emend.Proofs.Run.Plan
/-!
# Running what was read

The file patches of a document are checked when they are read and are carried out later,
on contents that nobody knew then.

*Patterns.*  A run is written once more with the searches that accept patterns only; it
ends as soon as one of them is given another text.  Such a run goes to the end whatever the
session, and it is the run (`Strict.executeAll_eq`).

*Lines.*  A file patch that goes by a range of lines says that it did not find them only if
its file has fewer lines, or the region of the anchor has, or there is none
(`Session.execute_misses_iff`).
-/

namespace Emend

/-- What is looked for, how, and what is done where it is found. -/
def Action.edit? : Action → Option (Text × MatchOptions × Change)
  | replace find t o => some (find, o, .replaced t)
  | insertBefore marker t o => some (marker, o, .before t)
  | insertAfter marker t o => some (marker, o, .after t)
  | delete find o => some (find, o, .deleted)
  | _ => none

theorem Action.search?_eq (action : Action) :
    action.search? = action.edit?.map fun e => (e.1, e.2.1) := by
  cases action <;> rfl

namespace Session

/-- The content in which a file patch with a written path makes its search. -/
def content? (s : Session) (written : Text) : Option Text := do
  let path ← (s.resolve written).toOption
  let bytes ← s.file? path
  (Utf8.decode bytes).toOption

variable {s : Session} {patch : FilePatch} {target : Text} {o : MatchOptions} {change : Change}

theorem content?_eq_some_iff {written content : Text} :
    s.content? written = some content ↔ ∃ path bytes, s.resolve written = .ok path ∧
      s.file? path = some bytes ∧ Utf8.decode bytes = .ok content := by
  have htext : ∀ {ε α : Type} (result : Except ε α) (a : α),
      result.toOption = some a ↔ result = .ok a := by
    rintro _ _ (e | b) a <;> simp [Except.toOption]
  simp only [content?, Option.bind_eq_bind, Option.bind_eq_some_iff, htext]
  constructor
  · rintro ⟨path, hpath, bytes, hbytes, hdecode⟩
    exact ⟨path, bytes, hpath, hbytes, hdecode⟩
  · rintro ⟨path, bytes, hpath, hbytes, hdecode⟩
    exact ⟨path, hpath, bytes, hbytes, hdecode⟩

theorem perform_of_edit? {action : Action} (h : action.edit? = some (target, o, change))
    (s : Session) (path : Path) : s.perform path action = s.editFile path target o change := by
  cases action <;> cases h <;> rfl

/-- Only a text that is not found is said not to be found. -/
theorem editFile_misses_iff (path : Path) :
    (s.editFile path target o change).2 = ⟨.skipped, Plan.notFound o.mode change, none⟩ ↔
      ∃ bytes content, s.file? path = some bytes ∧ Utf8.decode bytes = .ok content ∧
        findMatch content target o = none := by
  unfold editFile
  cases s.file? path with
  | none => simp
  | some bytes =>
  simp only [Option.some.injEq, exists_and_left, exists_eq_left']
  cases Utf8.decode bytes with
  | error e => simp
  | ok content =>
  simp only [Except.ok.injEq, exists_eq_left']
  cases hfound : findMatch content target o with
  | none => simp [plan_of_none hfound]
  | some m =>
  obtain ⟨before, after, -, -, -, hplan⟩ := plan_of_match change s.hash hfound
  rw [hplan]
  simp only [reduceCtorEq, iff_false]
  split
  · cases change <;> simp [Plan.notFound, String.ext_iff]
  · rw [save]
    generalize s.write path _ = written
    obtain ⟨s', result⟩ := written
    cases result <;> simp [concluding]

/-- A file patch that looks for a text says that it did not find it exactly if there is a
content in which to look for it, and it is not there. -/
theorem execute_misses_iff (h : patch.action.edit? = some (target, o, change)) :
    (s.execute patch).2.outcome = ⟨.skipped, Plan.notFound o.mode change, none⟩ ↔
      ∃ content, s.content? patch.path = some content ∧ findMatch content target o = none := by
  simp only [content?_eq_some_iff]
  unfold execute
  cases hresolve : s.resolve patch.path with
  | error e => simp
  | ok path =>
      simp only [perform_of_edit? h, editFile_misses_iff, Except.ok.injEq]
      constructor
      · rintro ⟨bytes, content, hfile, hdecode, hnone⟩
        exact ⟨content, ⟨path, bytes, rfl, hfile, hdecode⟩, hnone⟩
      · rintro ⟨content, ⟨_, bytes, rfl, hfile, hdecode⟩, hnone⟩
        exact ⟨bytes, content, hfile, hdecode, hnone⟩

end Session

/-! ## Runs that accept patterns only -/

namespace Strict

/-- Carries out a file patch if its search comes to no text that is no pattern. -/
def execute (s : Session) (patch : FilePatch) :
    Except Pattern.PatternError (Session × PatchResult) :=
  match s.content? patch.path, patch.action.search? with
  | some content, some (target, o) => (findMatch content target o).map fun _ => s.execute patch
  | _, _ => .ok (s.execute patch)

/-- Carries out file patches one after another as long as no search comes to a text that is
no pattern. -/
def executeAll (s : Session) : List FilePatch →
    Except Pattern.PatternError (Session × List PatchResult)
  | [] => .ok (s, [])
  | patch :: rest => do
    let (s, result) ← execute s patch
    let (s, results) ← executeAll s rest
    return (s, result :: results)

theorem execute_eq {patch : FilePatch} (h : patch.Usable) (s : Session) :
    execute s patch = .ok (s.execute patch) := by
  unfold execute
  split
  · next content target o _ hsearch =>
    rw [findMatch_eq (h.search target o hsearch) content]
    rfl
  · rfl

/-- File patches that can be used are carried out without a text that is no pattern. -/
theorem executeAll_eq {patches : List FilePatch} (h : ∀ patch ∈ patches, patch.Usable)
    (s : Session) : executeAll s patches = .ok (s.executeAll patches) := by
  induction patches generalizing s with
  | nil => rfl
  | cons patch rest ih =>
      obtain ⟨hpatch, hrest⟩ := List.forall_mem_cons.1 h
      simp only [executeAll, execute_eq hpatch, ih hrest, Session.executeAll, bind, Except.bind,
        pure, Except.pure]

end Strict

/-! ## Documents -/

namespace Document

variable {defaults : MatchDefaults} {t : Text} {d : PatchDocument}

theorem usable_of_parse (hdefaults : Settings.issues defaults = [])
    (hparse : parse defaults t = .ok d) : ∀ patch ∈ d.files, patch.Usable :=
  State.finish_usable hdefaults
    (State.run_usable hdefaults (show State.Usable .seeking from trivial) 1 _) d hparse

/-- What is read with settings in range can be carried out: each file patch can be used, no
search of a run comes to a text that is no pattern, and a range of lines is one, which is
missed only where there are fewer lines. -/
theorem parse_usable (hdefaults : Settings.issues defaults = []) (hparse : parse defaults t = .ok d) :
    (∀ patch ∈ d.files, patch.Usable) ∧
      (∀ s, Strict.executeAll s d.files = .ok (s.executeAll d.files)) ∧
      ∀ patch ∈ d.files, ∀ target o change, patch.action.edit? = some (target, o, change) →
        o.mode = .lineRange →
        ∃ first last, Literal.parseLineRange? target = some (first, last) ∧ 1 ≤ first ∧
          first ≤ last ∧ ∀ s : Session,
            ((s.execute patch).2.outcome = ⟨.skipped, Plan.notFound o.mode change, none⟩ ↔
              ∃ content, s.content? patch.path = some content ∧
                ∀ part, o.part? content = some part → Text.lineCount part < last) := by
  have husable := usable_of_parse hdefaults hparse
  refine ⟨husable, fun s => Strict.executeAll_eq husable s, ?_⟩
  intro patch hpatch target o change hedit hmode
  have hsearch : patch.action.search? = some (target, o) := by
    rw [Action.search?_eq, hedit]
    rfl
  obtain ⟨first, last, hrange, hfirst, hlast⟩ :=
    ((husable patch hpatch).search target o hsearch).lines hmode
  refine ⟨first, last, hrange, hfirst, hlast, fun s => ?_⟩
  rw [Session.execute_misses_iff hedit]
  simp only [findMatch_eq_none_iff_of_lineRange hmode hrange hfirst hlast]

/-- Defaults under which a text that is looked for is a range of lines. -/
def byLines : MatchDefaults := { options := { mode := .lineRange } }

/-- The deletion of two lines. -/
def lineDeletion : FilePatch := ⟨['a'], [], .delete ['2', '-', '3'] byLines.options⟩

/-- The deletion of what has a pattern. -/
def patternDeletion : FilePatch :=
  ⟨['b'], [], .delete ['x'] { byLines.options with mode := .regex }⟩

/-- The lines of a document with two deletions. -/
def deletionLines : List Text :=
  ["### PATCH: p".toList, "---".toList,
    "#### File: a".toList, "**Action:** delete".toList, "```".toList, "2-3".toList, "```".toList,
    "#### File: b".toList, "**Action:** delete".toList, "- MATCH_MODE: regex".toList,
    "```".toList, "x".toList, "```".toList]

theorem parse_deletionLines : parse byLines (Text.join ['\n'] deletionLines) =
    .ok ⟨{ name := ['p'] }, [lineDeletion, patternDeletion]⟩ := by
  have hlines : Text.documentLines (Text.join ['\n'] deletionLines) = deletionLines := by decide
  rw [parse, hlines]
  rfl

theorem parse_usable_deletions :
    lineDeletion.Usable ∧ patternDeletion.Usable ∧
      (∀ s, Strict.executeAll s [lineDeletion, patternDeletion] =
        .ok (s.executeAll [lineDeletion, patternDeletion])) ∧
      ∀ s : Session,
        ((s.execute lineDeletion).2.outcome =
            ⟨.skipped, "Block not found (mode: line_range)", none⟩ ↔
          ∃ content, s.content? ['a'] = some content ∧ Text.lineCount content < 3) := by
  obtain ⟨husable, hrun, hlines⟩ := parse_usable (by rfl) parse_deletionLines
  refine ⟨husable _ (by simp), husable _ (by simp), hrun, fun s => ?_⟩
  obtain ⟨first, last, hrange, -, -, hmisses⟩ :=
    hlines lineDeletion (by simp) ['2', '-', '3'] byLines.options .deleted rfl rfl
  obtain ⟨rfl, rfl⟩ : first = 2 ∧ last = 3 := by simpa using Option.some.inj (hrange.symm.trans rfl)
  have hmessage : Plan.notFound .lineRange .deleted = "Block not found (mode: line_range)" := rfl
  rw [← hmessage]
  simpa [MatchOptions.part?, byLines, lineDeletion] using hmisses s

end Document

end Emend
