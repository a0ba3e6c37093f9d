import Emend.Proofs.Document.Lines
import Emend.Proofs.Document.Relocation
import Emend.Proofs.Text.DocumentLines
/-!
# Documents put together

What has been read of the file sections before is carried along and looked at no more, so
a section is read after others as it is read after none (`State.run_after`).  The reading
ends at the end of the patch and begins at its start, so what comes after the one or before
the other does not count (`parse_of_stop`, `run_seeking`).

Together this is how the reading of a text is made from the readings of its parts
(`parse_composes`).
-/

namespace Emend.Document

/-! ## Sections after other sections -/

namespace Progress

variable (defaults : MatchDefaults) (m : Metadata) (files : List FilePatch)

/-- The same sections in a patch that says `m` about itself, after `files`. -/
def after (p : Progress) : Progress :=
  { p with metadata := m, files := files ++ p.files }

theorem closeSection_after (p : Progress) :
    (p.after m files).closeSection defaults = (p.closeSection defaults).map (after m files) := by
  obtain ⟨metadata, earlier, current⟩ := p
  cases current with
  | none => rfl
  | some s =>
      simp only [closeSection, after]
      cases s.build defaults with
      | ok patch => exact congrArg Except.ok (by simp [after])
      | error e => rfl

theorem finish_after (p : Progress) :
    (p.after m files).finish defaults =
      (p.finish defaults).map fun d => ⟨m, files ++ d.files⟩ := by
  unfold finish
  rw [closeSection_after]
  cases p.closeSection defaults <;> rfl

theorem beginSection_after (header : Text) (line : Nat) (p : Progress) :
    (p.after m files).beginSection defaults header line =
      (p.beginSection defaults header line).map (after m files) := by
  unfold beginSection
  rw [closeSection_after]
  cases p.closeSection defaults with
  | ok p => cases Section.ofHeader header line <;> rfl
  | error e => rfl

/-- A section begins after those that are complete, whichever they are. -/
theorem beginSection_of_finish {p : Progress} {d : PatchDocument}
    (h : p.finish defaults = .ok d) (header : Text) (line : Nat) :
    p.beginSection defaults header line =
      beginSection defaults header line { metadata := d.metadata, files := d.files } := by
  unfold finish at h
  unfold beginSection
  cases hclose : p.closeSection defaults with
  | error e => rw [hclose] at h; cases h
  | ok q =>
      rw [hclose] at h
      cases h
      cases Section.ofHeader header line <;> rfl

end Progress

namespace State

variable (defaults : MatchDefaults) (m : Metadata) (files : List FilePatch)

/-- The reading has come to the file sections. -/
def InSections : State → Prop
  | seeking | heading _ => False
  | _ => True

/-- The same state of the file sections in a patch that says `m` about itself, after
`files`. -/
def after : State → State
  | reading p => reading (p.after m files)
  | inBlock p fence opened body => inBlock (p.after m files) fence opened body
  | done d => done ⟨m, files ++ d.files⟩
  | s => s

theorem ofResult_inSections {α : Type} (next : α → State) (h : ∀ a, (next a).InSections)
    (result : Except DocumentError α) : (ofResult next result).InSections := by
  cases result with
  | ok a => exact h a
  | error e => trivial

theorem stepReading_inSections (number : Nat) (line : Line) (p : Progress) :
    (stepReading defaults number line p).InSections := by
  cases line with
  | patchEnd => exact ofResult_inSections done (fun _ => trivial) _
  | separator | fileHeader => exact ofResult_inSections reading (fun _ => trivial) _
  | patchStart | fence | field | option | other => trivial

theorem step_inSections {state : State} (h : state.InSections) (number : Nat) (raw : Text) :
    (step defaults state number raw).InSections := by
  cases state with
  | seeking | heading => exact h.elim
  | reading p => exact stepReading_inSections defaults number _ p
  | inBlock =>
      simp only [step]
      split <;> trivial
  | done | failed => trivial

theorem stepReading_after (number : Nat) (line : Line) (p : Progress) :
    stepReading defaults number line (p.after m files) =
      (stepReading defaults number line p).after m files := by
  cases line with
  | patchEnd =>
      simp only [stepReading, Progress.finish_after]
      cases p.finish defaults <;> rfl
  | separator =>
      simp only [stepReading, Progress.closeSection_after]
      cases p.closeSection defaults <;> rfl
  | fileHeader header =>
      simp only [stepReading, Progress.beginSection_after]
      cases p.beginSection defaults header number <;> rfl
  | patchStart | fence | field | option | other => rfl

/-- A line of the file sections is read after other sections as it is. -/
theorem step_after {state : State} (h : state.InSections) (number : Nat) (raw : Text) :
    step defaults (state.after m files) number raw =
      (step defaults state number raw).after m files := by
  cases state with
  | seeking | heading => exact h.elim
  | reading p => exact stepReading_after defaults m files number _ p
  | inBlock =>
      simp only [after, step]
      split <;> rfl
  | done | failed => rfl

/-- File sections are read after others as they are. -/
theorem run_after {state : State} (h : state.InSections) (number : Nat) (lines : List Text) :
    run defaults (state.after m files) number lines =
      (run defaults state number lines).after m files := by
  induction lines generalizing state number with
  | nil => rfl
  | cons raw rest ih =>
      rw [run, run, step_after defaults m files h]
      exact ih (step_inSections defaults h number raw) _

theorem run_inSections {state : State} (h : state.InSections) (number : Nat)
    (lines : List Text) : (run defaults state number lines).InSections := by
  induction lines generalizing state number with
  | nil => exact h
  | cons raw rest ih => exact ih (step_inSections defaults h number raw) _

theorem finish_after {state : State} (h : state.InSections) :
    (state.after m files).finish defaults =
      (state.finish defaults).map fun d => ⟨m, files ++ d.files⟩ := by
  cases state with
  | seeking | heading => exact h.elim
  | reading p => exact Progress.finish_after defaults m files p
  | inBlock | done | failed => rfl

/-! ## The end of a patch -/

/-- A line that ends the patch is read as one. -/
def Listens : State → Prop
  | heading _ | reading _ => True
  | _ => False

/-- Where the reading ends, its result is that of the lines so far. -/
theorem step_patchEnd {state : State} (h : state.Listens) {raw : Text}
    (hraw : Line.ofText raw = .patchEnd) (number : Nat) :
    step defaults state number raw = ofResult done (state.finish defaults) := by
  cases state with
  | heading m => simp only [step, hraw]; rfl
  | reading p => simp only [step, hraw]; rfl
  | seeking | inBlock | done | failed => exact h.elim

theorem run_ofResult_done (result : Except DocumentError PatchDocument) (number : Nat)
    (lines : List Text) :
    run defaults (ofResult done result) number lines = ofResult done result := by
  induction lines generalizing number with
  | nil => rfl
  | cons raw rest ih =>
      rw [run]
      cases result <;> exact ih _

theorem ofResult_reading_ne_done (result : Except DocumentError Progress) (d : PatchDocument) :
    ofResult reading result ≠ done d := by
  cases result <;> exact nofun

theorem stepReading_eq_done {number : Nat} {line : Line} {p : Progress} {d : PatchDocument}
    (h : stepReading defaults number line p = done d) : line = .patchEnd := by
  cases line with
  | patchEnd => rfl
  | separator | fileHeader => exact absurd h (ofResult_reading_ne_done _ d)
  | patchStart | fence | field | option | other => cases h

/-- Only the end of the patch ends the reading well. -/
theorem step_eq_done {state : State} {number : Nat} {raw : Text} {d : PatchDocument}
    (h : step defaults state number raw = done d) :
    state = done d ∨ Line.ofText raw = .patchEnd ∧ state.Listens := by
  cases state with
  | seeking =>
      simp only [step] at h
      split at h <;> cases h
  | heading m =>
      simp only [step] at h
      split at h
      · cases h
      · cases h
      · cases stepReading_eq_done defaults h
      · next hraw => exact .inr ⟨hraw, trivial⟩
      · cases h
  | reading p => exact .inr ⟨stepReading_eq_done defaults h, trivial⟩
  | inBlock =>
      simp only [step] at h
      split at h <;> cases h
  | done d' => exact .inl h
  | failed e => cases h

theorem exists_stop_of_run_eq_done {state : State} {number : Nat} {lines : List Text}
    {d : PatchDocument} (h : run defaults state number lines = done d) :
    state = done d ∨ ∃ front stop rest, lines = front ++ stop :: rest ∧
      Line.ofText stop = .patchEnd ∧ (run defaults state number front).Listens := by
  induction lines generalizing state number with
  | nil => exact .inl h
  | cons raw rest ih =>
      rcases ih h with hstep | ⟨front, stop, more, rfl, hstop, hfront⟩
      · rcases step_eq_done defaults hstep with hstate | ⟨hraw, hlistens⟩
        · exact .inl hstate
        · exact .inr ⟨[], raw, rest, rfl, hraw, hlistens⟩
      · exact .inr ⟨raw :: front, stop, more, rfl, hstop, hfront⟩

/-- Where a document could end, the header of a section begins one after those that are
complete. -/
theorem step_fileHeader_of_finish {state : State} {d : PatchDocument}
    (hfinish : state.finish defaults = .ok d) (hdone : ∀ d, state ≠ done d) {raw header : Text}
    (hraw : Line.ofText raw = .fileHeader header) (number : Nat) :
    step defaults state number raw =
      stepReading defaults number (.fileHeader header)
        { metadata := d.metadata, files := d.files } := by
  cases state with
  | heading m =>
      cases hfinish
      simp only [step, hraw]
  | reading p =>
      simp only [step, hraw, stepReading]
      rw [Progress.beginSection_of_finish defaults hfinish]
  | done d => exact absurd rfl (hdone d)
  | seeking | inBlock | failed => cases hfinish

/-- A section that begins where a document could end is read, with all that follows, as it is
read alone. -/
theorem run_of_finish {state : State} {d : PatchDocument}
    (hfinish : state.finish defaults = .ok d) (hdone : ∀ d, state ≠ done d) {raw header : Text}
    (hraw : Line.ofText raw = .fileHeader header) (rest : List Text) (number : Nat) :
    run defaults state number (raw :: rest) =
      (run defaults (reading { metadata := {} }) number (raw :: rest)).after d.metadata
        d.files := by
  have hsections := stepReading_inSections defaults number (.fileHeader header) { metadata := {} }
  rw [run, run, step_fileHeader_of_finish defaults hfinish hdone hraw,
    step_fileHeader_of_finish defaults (d := ⟨{}, []⟩) rfl (fun _ h => by cases h) hraw,
    ← run_after defaults _ _ hsections, ← stepReading_after, Progress.after, List.append_nil]

/-! ## The start of a patch -/

theorem run_seeking {lines : List Text}
    (h : ∀ line ∈ lines, ∀ name, Line.ofText line ≠ .patchStart name) (number : Nat) :
    run defaults seeking number lines = seeking := by
  induction lines generalizing number with
  | nil => rfl
  | cons raw rest ih =>
      have hstep : step defaults seeking number raw = seeking := by
        have hraw := h raw List.mem_cons_self
        simp only [step]
        split
        · next heq => exact absurd heq (hraw _)
        · next heq => exact absurd heq (hraw _)
        · rfl
      rw [run, hstep]
      exact ih (fun line hline => h line (List.mem_cons_of_mem _ hline)) _

end State

/-! ## Documents -/

variable (defaults : MatchDefaults)

/-- After the lines `front` the reading ends at the line `stop`. -/
def StopsAt (front : List Text) (stop : Text) : Prop :=
  Line.ofText stop = .patchEnd ∧ (State.run defaults .seeking 1 front).Listens

/-- The reading of a text ends at one of its lines. -/
def Stops (t : Text) : Prop :=
  ∃ front stop rest, Text.documentLines t = front ++ stop :: rest ∧ StopsAt defaults front stop

theorem parse_lines {t : Text} {front rest : List Text} {stop : Text}
    (hlines : Text.documentLines t = front ++ stop :: rest) (h : StopsAt defaults front stop) :
    parse defaults t = (State.run defaults .seeking 1 front).finish defaults := by
  unfold parse
  rw [hlines, State.run_append, State.run, State.step_patchEnd defaults h.2 h.1,
    State.run_ofResult_done]
  cases (State.run defaults .seeking 1 front).finish defaults <;> rfl

/-- A document whose reading ends at a line is what its lines before are. -/
theorem parse_of_stop {before stop after : Text} (hline : Text.IsLine before stop after)
    (h : StopsAt defaults (Text.documentLines before) stop) :
    parse defaults (before ++ stop ++ after) = parse defaults before := by
  have hne : stop ≠ [] := by
    rintro rfl
    cases h.1
  obtain ⟨read, more, hlines, htrim⟩ := hline.documentLines hne
  exact parse_lines defaults hlines ⟨(Line.ofText_congr htrim).trans h.1, h.2⟩

theorem parse_append {a : Text} (ha : a.getLast? = some '\n') (b : Text) :
    parse defaults (a ++ b) =
      ((State.run defaults (State.run defaults .seeking 1 (Text.documentLines a))
        (1 + (Text.documentLines a).length) (Text.documentLines b))).finish defaults := by
  unfold parse
  rw [Text.documentLines_append ha, State.run_append]

/-- Lines before the start of a patch move it down. -/
theorem parse_append_of_no_start {a : Text} (ha : a.getLast? = some '\n')
    (hstart : ∀ line ∈ Text.documentLines a, ∀ name, Line.ofText line ≠ .patchStart name)
    (b : Text) :
    parse defaults (a ++ b) = (parse defaults b).mapError
      (DocumentError.relocate (· + (Text.documentLines a).length)) := by
  rw [parse_append defaults ha, State.run_seeking defaults hstart]
  have hrun := State.run_shift defaults .seeking 1 (Text.documentLines a).length
    (Text.documentLines b)
  rw [parse, ← State.finish_shift, ← hrun]
  rfl

/-- The file sections that a text consists of. -/
def sectionsOf (t : Text) : Except DocumentError PatchDocument :=
  (State.run defaults (.reading { metadata := {} }) 1 (Text.documentLines t)).finish defaults

/-- File sections after a document are read as they are read alone, further down. -/
theorem parse_append_of_header {a b : Text} {d : PatchDocument} (ha : a.getLast? = some '\n')
    (hparse : parse defaults a = .ok d) (hstops : ¬ Stops defaults a)
    {first header : Text} {rest : List Text} (hb : Text.documentLines b = first :: rest)
    (hfirst : Line.ofText first = .fileHeader header) :
    parse defaults (a ++ b) =
      ((sectionsOf defaults b).mapError
        (DocumentError.relocate (· + (Text.documentLines a).length))).map
          fun sections => ⟨d.metadata, d.files ++ sections.files⟩ := by
  have hdone : ∀ d', State.run defaults .seeking 1 (Text.documentLines a) ≠ .done d' := by
    intro d' hrun
    rcases State.exists_stop_of_run_eq_done defaults hrun with h | h
    · cases h
    · exact hstops h
  have hrun := State.run_of_finish defaults hparse hdone hfirst rest
    (1 + (Text.documentLines a).length)
  have hsections : (State.reading { metadata := {} }).InSections := trivial
  rw [parse_append defaults ha, hb, hrun,
    State.finish_after defaults _ _ (State.run_inSections defaults hsections _ _)]
  have hshift := State.run_shift defaults (.reading { metadata := {} }) 1
    (Text.documentLines a).length (first :: rest)
  rw [sectionsOf, hb, ← State.finish_shift, ← hshift]
  rfl

/-- The shortest text before file sections. -/
def opening : Text := "### PATCH: x\n---\n".toList

theorem getLast?_opening : opening.getLast? = some '\n' := by
  decide

theorem documentLines_opening :
    Text.documentLines opening = ["### PATCH: x".toList, "---".toList] := by
  decide

theorem parse_opening : parse defaults opening = .ok ⟨{ name := ['x'] }, []⟩ := by
  have hstart : Line.ofText "### PATCH: x".toList = .patchStart ['x'] := by decide
  have hend : Line.ofText "---".toList = .separator := by decide
  rw [parse, documentLines_opening]
  simp only [State.run, State.step, hstart, hend]
  rfl

theorem not_stops {t : Text}
    (h : ∀ line ∈ Text.documentLines t, Line.ofText line ≠ .patchEnd) : ¬ Stops defaults t := by
  rintro ⟨front, stop, rest, hlines, hstop⟩
  exact h stop (by simp [hlines]) hstop.1

/-- How the reading of a text is made from the readings of its parts.

* File sections after a document that is read to its end add their file patches to those of
  the document; what is wrong with them is what is wrong with them after the two lines of an
  opening, further down.
* What comes after the line at which the reading ends does not count.
* Lines before the start of a patch only move it down. -/
theorem parse_composes :
    (∀ (a b : Text) (m : Metadata) (files : List FilePatch) (first header : Text)
        (rest : List Text),
      parse defaults a = .ok ⟨m, files⟩ → a.getLast? = some '\n' → ¬ Stops defaults a →
      Text.documentLines b = first :: rest → Line.ofText first = .fileHeader header →
      parse defaults (a ++ b) =
        match parse defaults (opening ++ b) with
        | .ok d => .ok ⟨m, files ++ d.files⟩
        | .error e => .error (e.relocate fun line => line + (Text.documentLines a).length - 2)) ∧
    (∀ before stop after after' : Text,
      Text.IsLine before stop after → Text.IsLine before stop after' →
      StopsAt defaults (Text.documentLines before) stop →
      parse defaults (before ++ stop ++ after') = parse defaults (before ++ stop ++ after)) ∧
    (∀ before t : Text, before.getLast? = some '\n' →
      (∀ line ∈ Text.documentLines before, ∀ name, Line.ofText line ≠ .patchStart name) →
      parse defaults (before ++ t) = (parse defaults t).mapError
        (DocumentError.relocate (· + (Text.documentLines before).length))) := by
  refine ⟨?_, ?_, ?_⟩
  · intro a b m files first header rest ha hlast hstops hb hfirst
    rw [parse_append_of_header defaults hlast ha hstops hb hfirst,
      parse_append_of_header defaults getLast?_opening (parse_opening defaults)
        (not_stops defaults (by decide)) hb hfirst, documentLines_opening]
    cases sectionsOf defaults b with
    | ok sections => rfl
    | error e =>
        refine congrArg Except.error (Eq.symm ((e.relocate_relocate _ _).trans ?_))
        congr 1
        funext line
        simp only [Function.comp_apply, List.length_cons, List.length_nil]
        omega
  · intro before stop after after' hline hline' hstop
    rw [parse_of_stop defaults hline hstop, parse_of_stop defaults hline' hstop]
  · intro before t hlast hstart
    exact parse_append_of_no_start defaults hlast hstart t

/-- A section that deletes a file. -/
def deletionOf (path : Text) : Text :=
  "#### File: ".toList ++ path ++ "\n**Action:** delete_file\n".toList

theorem parse_composes_deletions :
    parse {} (opening ++ deletionOf ['a'] ++ deletionOf ['b']) =
        .ok ⟨{ name := ['x'] }, [⟨['a'], [], .deleteFile⟩, ⟨['b'], [], .deleteFile⟩]⟩ ∧
      parse {} (opening ++ deletionOf ['a'] ++ deletionOf []) = .error (.missingPath 5) ∧
      parse {} (opening ++ deletionOf ['a'] ++ "=== PATCH END ===".toList ++ "\n---".toList) =
        parse {} (opening ++ deletionOf ['a'] ++ "=== PATCH END ===".toList ++ []) ∧
      parse {} ("---\n".toList ++ (opening ++ deletionOf [])) = .error (.missingPath 4) := by
  have hstops : ¬ Stops {} (opening ++ deletionOf ['a']) := not_stops _ (by decide)
  refine ⟨?_, ?_, ?_, ?_⟩
  · exact (parse_composes {}).1 _ (deletionOf ['b']) { name := ['x'] } _ _ ['b'] _ rfl (by decide)
      hstops rfl (by decide)
  · exact (parse_composes {}).1 _ (deletionOf []) { name := ['x'] } _ _ [] _ rfl (by decide)
      hstops rfl (by decide)
  · exact (parse_composes {}).2.1 (opening ++ deletionOf ['a']) "=== PATCH END ===".toList [] _
      ⟨by decide, by decide, by decide⟩ ⟨by decide, by decide, by decide⟩ ⟨by decide, trivial⟩
  · refine (parse_composes {}).2.2 "---\n".toList _ (by decide) fun line hline name => ?_
    obtain rfl : line = "---".toList := List.mem_singleton.1 hline
    exact nofun

end Emend.Document
