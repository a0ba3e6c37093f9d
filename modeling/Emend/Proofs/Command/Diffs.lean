import Emend.Command.Run
import Emend.Proofs.Run.Views
import Emend.Proofs.Workspace.Written
/-!
# Diffs and what files held

A diff is between what a file is known to have held and its new content.  What is known comes from
before the run, and from the results that wrote the file under the same written path (`Known`,
`exists_known`); whatever else has become of the file is not.

In a base without links, and for a path that is written plainly, it is what the file held at the
moment that it comes from, so it is right if the file has been left alone since (`diffs_shown`).
-/

namespace Emend

open FileTree

/-- The text of the file at a path, as the session sees it; it is empty if there is none. -/
def Session.textAt (s : Session) (path : Path) : Text :=
  ((s.file? path).bind fun bytes => (Utf8.decode bytes).toOption).getD []

theorem Session.textAt_of_encode {s : Session} {path : Path} {t : Text}
    (h : s.file? path = some (Utf8.encode t)) : s.textAt path = t := by
  rw [textAt, h, Option.bind_some, Utf8.decode_encode]
  rfl

namespace Command

/-! ## Before the run -/

/-- The text that a written path leads to after the base as it is written. -/
def textOf? (tree : FileTree) (directory : Path) (base written : Text) : Option Text :=
  (tree.readFrom directory (Path.joinText base written)).toOption.bind fun bytes =>
    (Utf8.decode bytes).toOption

theorem heldBefore_cons (tree : FileTree) (directory : Path) (base : Text) (patch : FilePatch)
    (rest : List FilePatch) :
    let held := heldBefore tree directory base rest
    heldBefore tree directory base (patch :: rest) =
      ((textOf? tree directory base patch.path).map fun t => held.put patch.path t).getD held := by
  rw [heldBefore, textOf?]
  cases tree.readFrom directory (Path.joinText base patch.path) with
  | error e => rfl
  | ok bytes =>
      simp only [Except.toOption, Option.bind_some]
      cases Utf8.decode bytes <;> rfl

theorem heldBefore_eq (tree : FileTree) (directory : Path) (base : Text) (patches : List FilePatch)
    (written : Text) : heldBefore tree directory base patches written =
      if written ∈ patches.map FilePatch.path then textOf? tree directory base written
      else none := by
  induction patches with
  | nil => rfl
  | cons patch rest ih =>
      rw [heldBefore_cons, List.map_cons]
      by_cases heq : written = patch.path
      · subst heq
        rw [if_pos List.mem_cons_self]
        cases htext : textOf? tree directory base patch.path with
        | none =>
            rw [htext] at ih
            simpa using ih
        | some t => exact Document.Entries.put_self patch.path t _
      · have hmem : written ∈ patch.path :: rest.map FilePatch.path ↔
            written ∈ rest.map FilePatch.path := by simp [heq]
        simp only [hmem]
        rw [← ih]
        cases textOf? tree directory base patch.path with
        | none => rfl
        | some t => exact Document.Entries.put_of_ne heq t _

/-! ## What is known -/

/-- What files are known to hold after a result. -/
def heldWith (held : Document.Entries Text) (r : PatchResult) : Document.Entries Text :=
  (r.outcome.newContent.map fun t => held.put r.file t).getD held

theorem contentPairs_getElem? (held : Document.Entries Text) (results : List PatchResult)
    (i : Nat) : (contentPairs held results)[i]? = results[i]?.map fun r =>
      r.outcome.newContent.map fun new =>
        (((results.take i).foldl heldWith held r.file).getD [], new) := by
  induction results generalizing held i with
  | nil => rfl
  | cons r rest ih =>
      rw [contentPairs]
      cases hnew : r.outcome.newContent with
      | none =>
          cases i with
          | zero => simp [hnew]
          | succ i => simp [ih, heldWith, hnew]
      | some new =>
          cases i with
          | zero => simp [hnew]
          | succ i => simp [ih, heldWith, hnew]

/-- What is known of a written path before result `i` comes from moment `k`: from the start, or
from the result right before that moment, which wrote the file; and no later result did. -/
structure Known (held : Document.Entries Text) (results : List PatchResult) (written : Text)
    (i k : Nat) (text : Option Text) : Prop where
  /-- The moment is not after the result. -/
  le : k ≤ i
  /-- At the start, it is what was held before; else, it was written by the result. -/
  source : k = 0 ∧ text = held written ∨ ∃ j r, k = j + 1 ∧ results[j]? = some r ∧
    r.file = written ∧ r.outcome.newContent = text ∧ text ≠ none
  /-- No later result wrote the file under this path. -/
  since : ∀ j r, k ≤ j → j < i → results[j]? = some r → r.file = written →
    r.outcome.newContent = none

/-- What is known stays known if the next result does not write the file. -/
theorem Known.succ {held : Document.Entries Text} {results : List PatchResult} {written : Text}
    {i k : Nat} {text : Option Text} (h : Known held results written i k text)
    (hnone : ∀ r, results[i]? = some r → r.file = written → r.outcome.newContent = none) :
    Known held results written (i + 1) k text := by
  refine ⟨Nat.le_succ_of_le h.le, h.source, fun j r hkj hji hr hfile => ?_⟩
  rcases Nat.lt_or_eq_of_le (Nat.le_of_lt_succ hji) with hlt | rfl
  · exact h.since j r hkj hlt hr hfile
  · exact hnone r hr hfile

theorem foldl_heldWith_succ (held : Document.Entries Text) {results : List PatchResult} {i : Nat}
    {r : PatchResult} (h : results[i]? = some r) :
    (results.take (i + 1)).foldl heldWith held =
      heldWith ((results.take i).foldl heldWith held) r := by
  obtain ⟨hi, hget⟩ := List.getElem?_eq_some_iff.1 h
  rw [List.take_succ_eq_append_getElem hi, List.foldl_append, hget]
  rfl

theorem exists_known (held : Document.Entries Text) (results : List PatchResult) (written : Text)
    (i : Nat) :
    ∃ k, Known held results written i k ((results.take i).foldl heldWith held written) := by
  induction i with
  | zero => exact ⟨0, Nat.le_refl 0, .inl ⟨rfl, rfl⟩, by intro j r _ hj; omega⟩
  | succ i ih =>
      obtain ⟨k, hknown⟩ := ih
      cases hresult : results[i]? with
      | none =>
          have hall := List.getElem?_eq_none_iff.1 hresult
          rw [List.take_of_length_le hall] at hknown
          rw [List.take_of_length_le (Nat.le_succ_of_le hall)]
          exact ⟨k, hknown.succ (by simp [hresult])⟩
      | some r =>
          have hsame : ∀ r', results[i]? = some r' → r' = r := fun r' hr' =>
            (Option.some.inj (hresult.symm.trans hr')).symm
          rw [foldl_heldWith_succ held hresult, heldWith]
          cases hnew : r.outcome.newContent with
          | none =>
              refine ⟨k, hknown.succ fun r' hr' _ => ?_⟩
              rw [hsame r' hr', hnew]
          | some t =>
              rw [Option.map_some, Option.getD_some]
              by_cases hfile : written = r.file
              · subst hfile
                rw [Document.Entries.put_self]
                refine ⟨i + 1, Nat.le_refl _, .inr ⟨i, r, rfl, hresult, rfl, hnew, ?_⟩,
                  by intro j r _ hj; omega⟩
                exact Option.some_ne_none t
              · rw [Document.Entries.put_of_ne hfile]
                refine ⟨k, hknown.succ fun r' hr' hfile' => ?_⟩
                rw [hsame r' hr'] at hfile'
                exact absurd hfile'.symm hfile

/-! ## What is right -/

/-- Each file patch before `i` that was carried out and names a path wrote the file, and under the
given written path. -/
def Followed (s : Session) (patches : List FilePatch) (written : Text) (path : Path) (i : Nat) :
    Prop :=
  ∀ j patch r, j < i → patches[j]? = some patch → (s.executeAll patches).2[j]? = some r →
    r.outcome.status = .success → path ∈ s.paths patch →
      patch.path = written ∧ r.outcome.newContent ≠ none

section Clear

variable {s : Session} {patches : List FilePatch} {written : Text} {path : Path} {i k : Nat}
  {held : Document.Entries Text} {text : Option Text}

/-- A result is that of a file patch for the path that it names. -/
theorem exists_patch {j : Nat} {r : PatchResult} (h : (s.executeAll patches).2[j]? = some r) :
    ∃ patch, patches[j]? = some patch ∧ r.file = patch.path ∧
      r = ((s.before patches j).execute patch).2 := by
  rw [Session.executeAll_getElem?] at h
  obtain ⟨patch, hpatch, rfl⟩ := Option.map_eq_some_iff.1 h
  exact ⟨patch, hpatch, rfl, rfl⟩

/-- A new content is what the file holds after the result. -/
theorem textAt_of_newContent (h : s.Clear) {j : Nat} {patch : FilePatch} {new : Text}
    (hpatch : patches[j]? = some patch) (hresolve : s.resolve patch.path = .ok path)
    (hnew : ((s.before patches j).execute patch).2.outcome.newContent = some new) :
    (s.before patches (j + 1)).textAt path = new := by
  obtain ⟨hclear, hbase⟩ := Session.before_clear h patches j
  have hpath := h.bare.grounded.isFrom_of_resolve hresolve
  have hfrom : Path.IsFrom (s.before patches j).base path := by rwa [hbase]
  have hshows := Session.execute_shows hclear patch hfrom
  rw [← Session.before_resolve h patches j] at hresolve
  rw [Session.before_succ hpatch]
  exact Session.textAt_of_encode (hshows.written new hnew hresolve)

variable (h : s.Clear) (hresolve : s.resolve written = .ok path)
  (hstart : (held written).getD [] = s.textAt path)
  (hknown : Known held (s.executeAll patches).2 written i k text)

include h hresolve hstart hknown

/-- What is known is what the file held at the moment from which it is known. -/
theorem Known.eq_textAt : text.getD [] = (s.before patches k).textAt path := by
  rcases hknown.source with ⟨rfl, rfl⟩ | ⟨j, r, rfl, hr, hfile, hnew, hne⟩
  · exact hstart
  · obtain ⟨patch, hpatch, hpath, rfl⟩ := exists_patch hr
    obtain ⟨new, rfl⟩ := Option.ne_none_iff_exists'.1 hne
    rw [hpath] at hfile
    subst hfile
    exact (textAt_of_newContent h hpatch hresolve hnew).symm

/-- It is what the file holds still, if no change of the file has been missed. -/
theorem Known.eq_textAt_of_followed (hfollowed : Followed s patches written path i) :
    text.getD [] = (s.before patches i).textAt path := by
  have hpath := h.bare.grounded.isFrom_of_resolve hresolve
  have hsame := Session.file?_before h hpath hknown.le fun j patch r hkj hji hpatch hr hok hmem => by
    obtain ⟨hfile, hnew⟩ := hfollowed j patch r hji hpatch hr hok hmem
    obtain ⟨_, hother, hnamed, -⟩ := exists_patch hr
    obtain rfl := Option.some.inj (hpatch.symm.trans hother)
    exact hnew (hknown.since j r hkj hji hr (hnamed.trans hfile))
  rw [Known.eq_textAt h hresolve hstart hknown, Session.textAt, Session.textAt, hsame]

end Clear

/-! ## The diffs of a document -/

/-- The session in which a document is applied. -/
def Applying.start (a : Applying) (root : Path) (tree : FileTree) : Session :=
  { base := root, dryRun := a.dryRun, tree }

/-- What a plainly written path leads to before the run is what the session sees there. -/
theorem textOf?_start {tree : FileTree} {root directory path : Path} {a : Applying} {written : Text}
    (hbare : Bare root tree) (hroot : tree.canonicalFrom directory a.base = .ok root)
    (hplain : Path.Plain written) (hresolve : (a.start root tree).resolve written = .ok path) :
    (textOf? tree directory a.base written).getD [] = (a.start root tree).textAt path := by
  have hpath : path = root ++ Path.parts written := Guard.resolve_plain hplain hresolve
  have hfile : (a.start root tree).file? path = tree.file? path := rfl
  have hempty : Path.joinText a.base written ≠ [] :=
    Path.joinText_ne_nil (canonicalFrom_eq_ok.1 hroot).1 written
  rw [Session.textAt, textOf?, readFrom, if_neg (by simpa using hempty), hfile, hpath,
    ← file?_joinText hbare hroot hplain]
  cases hread : tree.read (partsFrom directory (Path.joinText a.base written)) with
  | ok bytes => rw [read_eq_ok.1 hread]; rfl
  | error e =>
      have hnone : tree.file? (partsFrom directory (Path.joinText a.base written)) = none := by
        by_contra hsome
        obtain ⟨bytes, hbytes⟩ := Option.ne_none_iff_exists'.1 hsome
        rw [read_eq_ok.2 hbytes] at hread
        cases hread
      rw [hnone]
      rfl

theorem entryText_eq_iff (colours : Bool) (r : PatchResult) (old new : Text) :
    entryText colours r (some (old, new)) = resultText colours r ↔ old = new := by
  simp only [entryText, List.append_right_eq_self]
  split
  · next h => exact iff_of_true rfl h
  · next h => exact iff_of_false (by simp [diffText]) h

/-- With the results of a document, the diff of each new content is shown, unless this is what is
known of the file.  What is known comes from before the run, or from the last result that wrote the
file under the same path, and it is what the file held at that moment, if the path is written
plainly and there is no link below the base.  It is what the file held right before the file patch,
if each change of the file before it was a new content under the same path. -/
theorem diffs_shown {env : Environment} {a : Applying} {tree after : FileTree} {source : Source}
    {report : ApplyReport} (hdiff : a.diff = true) (hjson : a.json = false)
    (happly : apply tree env.directory a.base source.text a.dryRun a.defaults =
      (after, .ok report)) :
    ∃ document root, Document.parse a.defaults source.text = .ok document ∧
      tree.canonicalFrom env.directory a.base = .ok root ∧
      let start := a.start root tree
      let files := document.files
      let pairs := shownPairs env a tree source.text report.results
      (applySources env a tree [] [] [source]).output =
        applyText env.colours source.label a.base report pairs ∧
      ∀ i patch, files[i]? = some patch → ∃ result, report.results[i]? = some result ∧
        result = ((start.before files i).execute patch).2 ∧
        ∀ new, result.outcome.newContent = some new → ∃ k old,
          pairs[i]? = some (some (Option.getD old [], new)) ∧
          Known (heldBefore tree env.directory a.base files) report.results patch.path i k old ∧
          (entryText env.colours result (some (old.getD [], new)) =
            resultText env.colours result ↔ old.getD [] = new) ∧
          (Bare root tree → Path.Plain patch.path → ∀ path, start.resolve patch.path = .ok path →
            (start.before files (i + 1)).textAt path = new ∧
            old.getD [] = (start.before files k).textAt path ∧
            (Followed start files patch.path path i →
              old.getD [] = (start.before files i).textAt path)) := by
  obtain ⟨document, root, hparse, hroot, -, -, hresults⟩ := apply_eq_ok _ _ _ _ _ _ _ happly
  refine ⟨document, root, hparse, hroot, ?_⟩
  intro start files pairs
  have hrun : report.results = (start.executeAll files).2 := hresults
  have hpairs : pairs =
      contentPairs (heldBefore tree env.directory a.base files) report.results := by
    simp only [pairs, shownPairs, hdiff, if_true, hparse]
    rfl
  refine ⟨by simp [applySources, happly, hjson, pairs], fun i patch hpatch => ?_⟩
  have hresult := Session.executeAll_getElem? start files i
  rw [hpatch, Option.map_some, ← hrun] at hresult
  refine ⟨_, hresult, rfl, fun new hnew => ?_⟩
  obtain ⟨k, hknown⟩ :=
    exists_known (heldBefore tree env.directory a.base files) report.results patch.path i
  refine ⟨k, _, ?_, hknown, entryText_eq_iff .., fun hbare hplain path hresolve => ?_⟩
  · rw [hpairs, contentPairs_getElem?, hresult, Option.map_some]
    exact congrArg some (congrArg _ hnew)
  · have hclear : start.Clear := Session.clear_start hbare a.dryRun
    have hmem : patch.path ∈ files.map FilePatch.path :=
      List.mem_map_of_mem (List.mem_of_getElem? hpatch)
    have hstart : (heldBefore tree env.directory a.base files patch.path).getD [] =
        start.textAt path := by
      rw [heldBefore_eq, if_pos hmem]
      exact textOf?_start hbare hroot hplain hresolve
    rw [hrun] at hknown ⊢
    exact ⟨textAt_of_newContent hclear hpatch hresolve hnew,
      hknown.eq_textAt hclear hresolve hstart,
      hknown.eq_textAt_of_followed hclear hresolve hstart⟩

/-! ## Two documents -/

/-- A base `/w` with the file `/w/f`. -/
def heldFile : FileTree where
  entries := [([['w']], .directory), ([['w'], ['f']], .file [120])]

theorem heldFile_bare : Bare [['w']] heldFile :=
  ⟨⟨closed_of_entries (by decide), rfl, rfl⟩, linkFree_of_entries (by simp [heldFile])⟩

theorem heldBefore_heldFile {files : List FilePatch} (h : ['f'] ∈ files.map FilePatch.path) :
    heldBefore heldFile [] "/w".toList files ['f'] = some ['x'] := by
  have hread : heldFile.readFrom [] (Path.joinText "/w".toList ['f']) =
      .ok (Utf8.encode ['x']) := rfl
  rw [heldBefore_eq, if_pos h, textOf?, hread]
  simp [Except.toOption, Utf8.decode_encode]

/-- Documents are applied to the base `/w`, with diffs. -/
def withDiffs : Applying where
  base := "/w".toList
  defaults := {}
  dryRun := false
  diff := true
  json := false

/-- The directory `/` is that from which paths are seen. -/
def fromRoot : Environment where
  tree := heldFile
  directory := []

/-- A document that replaces a file twice. -/
def replacing : Source where
  label := "p".toList
  text := "### PATCH: p\n---\n#### File: f\n**Action:** replace_file\n```\ny\n```\n".toList ++
    "#### File: f\n**Action:** replace_file\n```\nz\n```".toList

/-- Its file patches. -/
def replacements : List FilePatch :=
  [⟨['f'], [], .replaceFile ['y']⟩, ⟨['f'], [], .replaceFile ['z']⟩]

theorem parse_replacing :
    Document.parse {} replacing.text = .ok ⟨{ name := ['p'] }, replacements⟩ := by
  rfl

/-- The second diff is between the two contents that the document gives the file. -/
theorem diffs_shown_replacing : ∃ report,
    (apply heldFile [] "/w".toList replacing.text false {}).2 = .ok report ∧
      (shownPairs fromRoot withDiffs heldFile replacing.text report.results)[1]? =
        some (some (['y'], ['z'])) ∧
      ((withDiffs.start [['w']] heldFile).before replacements 1).textAt [['w'], ['f']] = ['y'] := by
  have hdirectory : heldFile.isDirectoryFrom [] "/w".toList = true := by decide
  have hroot : heldFile.canonicalFrom [] "/w".toList = .ok [['w']] := by rfl
  have happly :=
    apply_of_directory heldFile [] "/w".toList replacing.text false {} {} hdirectory hroot
  rw [parse_replacing] at happly
  obtain ⟨document, root, hparse, hcanonical, -, hshown⟩ :=
    @diffs_shown fromRoot withDiffs _ _ _ _ rfl rfl happly
  obtain rfl := Except.ok.inj (hparse.symm.trans parse_replacing)
  obtain rfl := Except.ok.inj (hcanonical.symm.trans hroot)
  have hclear : (withDiffs.start [['w']] heldFile).Clear := Session.clear_start heldFile_bare false
  have hresolve : (withDiffs.start [['w']] heldFile).resolve ['f'] = .ok [['w'], ['f']] := by rfl
  have hheld : ((withDiffs.start [['w']] heldFile).before replacements 1).textAt [['w'], ['f']] =
      ['y'] := textAt_of_newContent (j := 0) hclear rfl hresolve rfl
  obtain ⟨result, -, rfl, hpair⟩ := hshown 1 ⟨['f'], [], .replaceFile ['z']⟩ rfl
  obtain ⟨k, old, hget, -, -, hright⟩ := hpair ['z'] rfl
  obtain ⟨-, -, hbefore⟩ := hright heldFile_bare (by decide) _ hresolve
  have hold : old.getD [] = ['y'] := by
    refine (hbefore fun j patch r hj hpatch hr _ _ => ?_).trans hheld
    obtain rfl : j = 0 := by omega
    cases hpatch
    have hnew : r.outcome.newContent = some ['y'] := by
      rw [← Option.some.inj (Eq.trans (Eq.symm rfl) hr)]
    exact ⟨rfl, by simp [hnew]⟩
  exact ⟨_, congrArg Prod.snd happly, by rw [hget, hold], hheld⟩

/-- A document that deletes a file and creates it again. -/
def recreating : Source where
  label := "p".toList
  text := "### PATCH: p\n---\n#### File: f\n**Action:** delete_file\n".toList ++
    "#### File: f\n**Action:** create_file\n```\nx\n```".toList

/-- Its file patches. -/
def recreations : List FilePatch :=
  [⟨['f'], [], .deleteFile⟩, ⟨['f'], [], .createFile ['x']⟩]

theorem parse_recreating :
    Document.parse {} recreating.text = .ok ⟨{ name := ['p'] }, recreations⟩ := by
  rfl

/-- A deletion is missed: before the file is created again there is none, but no diff is shown, as
it gets the text that it had. -/
theorem diffs_shown_recreating :
    let start := withDiffs.start [['w']] heldFile
    let results := (start.executeAll recreations).2
    Document.parse {} recreating.text = .ok ⟨{ name := ['p'] }, recreations⟩ ∧
      (start.before recreations 1).file? [['w'], ['f']] = none ∧
      results.map (fun r => r.outcome.newContent) = [none, some ['x']] ∧
      shownPairs fromRoot withDiffs heldFile recreating.text results =
        [none, some (['x'], ['x'])] ∧
      ∀ colours r, entryText colours r (some (['x'], ['x'])) = resultText colours r := by
  intro start results
  have hheld : heldBefore heldFile [] "/w".toList recreations ['f'] = some ['x'] :=
    heldBefore_heldFile (by decide)
  refine ⟨parse_recreating, by decide, by decide, ?_, fun _ _ => (entryText_eq_iff ..).2 rfl⟩
  have hpairs : shownPairs fromRoot withDiffs heldFile recreating.text results =
      [none, some ((heldBefore heldFile [] "/w".toList recreations ['f']).getD [], ['x'])] := rfl
  rw [hpairs, hheld]
  rfl

end Command

end Emend
