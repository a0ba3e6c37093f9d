import Emend.Proofs.Match.Strategies
import Emend.Proofs.Run.DryRun
import Emend.Proofs.Run.Plan
/-!
# What dry runs report

A dry run does all that an action asks for, so it reports what the deed of the action
promises (`perform_dry`).

*Seeing alike.*  Two dry runs see alike at a written path if it stands for the same in both
and the same is read there (`SeesAlike`).  A file patch that names only such paths has the
same result in both (`execute_seesAlike`).

*Telling apart.*  Where two dry runs do not see alike, there is a file patch by which they
differ in what they report (`exists_report_ne`).  A file that is there for one of them only
is told by an attempt to create it, and of two texts the longer one by its deletion: it can
be found in itself and not in the other one (`exists_tells`).
-/

namespace Emend

/-- What is reported of an outcome. -/
def Outcome.report (o : Outcome) : Status × String := (o.status, o.message)

/-! ## A text that is sought in a text -/

/-- The options under which a text is sought as it is written. -/
def MatchOptions.verbatim : MatchOptions := { mode := .contains }

theorem findMatch_verbatim_self {content : Text} (hne : content ≠ []) :
    findMatch content content .verbatim = some (.ofSpan content ⟨0, Text.size content⟩) := by
  have htext : Span.text ⟨0, Text.size content⟩ content = content := by
    simpa [Text.size] using Span.text_append [] content []
  have hoccurs : Occurs (Literal.Agree true) content content []
      (Span.text ⟨0, Text.size content⟩ content) :=
    Literal.occurs_agree_iff.2 ⟨List.prefix_refl content, htext⟩
  refine (Literal.findText_eq_some_iff hne).2 ⟨[], ⟨hoccurs, fun _ _ _ => List.nil_prefix⟩, ?_⟩
  rw [Match.ofSpan, htext, Text.size, Nat.zero_add]

/-- A text is not found in another one that is not longer. -/
theorem findMatch_verbatim_other {content other : Text} (hne : content ≠ other)
    (hlength : other.length ≤ content.length) : findMatch other content .verbatim = none := by
  by_cases hempty : content = []
  · subst hempty
    rfl
  · by_contra hfound
    obtain ⟨m, hm⟩ := Option.ne_none_iff_exists'.1 hfound
    obtain ⟨before, hfirst, -⟩ := Literal.occursFirst_of_findText hempty hm
    have hcut := (Literal.occurs_agree_iff.1 hfirst.toOccurs).1
    have hpart : content <:+: other :=
      (List.suffix_append before content).isInfix.trans hcut.isInfix
    exact hne (hpart.eq_of_length (Nat.le_antisymm hpart.length_le hlength))

/-- Nothing is left of a text from which the whole of it has been deleted. -/
theorem plan_delete_self {content : Text} (hne : content ≠ []) :
    ∃ summary, plan content content .verbatim .deleted = .ok (.edited [] summary) := by
  have hspan : (⟨0, Text.size content⟩ : Span) =
      ⟨Text.size [], Text.size [] + Text.size content⟩ := by
    rw [Text.size, Nat.zero_add]
  have htext := Span.text_append [] content []
  have hsplice := Edit.splice_at [] Text.digest [] content []
  rw [List.nil_append, List.append_nil, ← hspan] at htext hsplice
  refine ⟨Plan.summary content (.ofSpan content ⟨0, Text.size content⟩) .contains .deleted, ?_⟩
  rw [plan, findMatch_verbatim_self hne]
  simp only [Plan.edit, Edit.ofMatch, Match.ofSpan, htext, hsplice, Except.map]
  rfl

/-! ## What is promised -/

namespace Deed

/-- The outcome of a deed that is done to its end. -/
def promised : Deed → Outcome
  | leave outcome => outcome
  | save content _ message => ⟨.success, message, some content⟩
  | delete => ⟨.success, "Deleted file", none⟩
  | move _ written => ⟨.success, "Moved file to " ++ String.ofList written, none⟩

variable {file? other : Path → Option Bytes} {path : Path}

/-! ### Telling apart -/

/-- There is an action, and no move, by which two views differ in what is reported. -/
def Tells (file? other : Path → Option Bytes) (path : Path) : Prop :=
  ∃ action, (∀ written overwrite, action ≠ .moveFile written overwrite) ∧
    ∀ resolve resolve' : Text → Except GuardError Path,
      (ofAction file? resolve path action).promised.report ≠
        (ofAction other resolve' path action).promised.report

theorem Tells.symm (h : Tells file? other path) : Tells other file? path := by
  obtain ⟨action, hmove, hne⟩ := h
  exact ⟨action, hmove, fun resolve resolve' => (hne resolve' resolve).symm⟩

/-- Whether there is a file is told by an attempt to create it. -/
theorem tells_isSome (h : (file? path).isSome) (hother : other path = none) :
    Tells file? other path := by
  refine ⟨.createFile [], by simp, fun resolve resolve' => ?_⟩
  simp [ofAction, h, hother, promised, Outcome.report]

/-- Why a file is no text is told by any change in it. -/
theorem tells_error {message : String} (h : reading file? path = some (.error message))
    (hother : reading other path ≠ some (.error message)) (hsome : (other path).isSome) :
    Tells file? other path := by
  obtain ⟨bytes, e, hfile, hdecode, rfl⟩ := reading_eq_error.1 h
  obtain ⟨bytes', hfile'⟩ := Option.isSome_iff_exists.1 hsome
  refine ⟨.delete [] .verbatim, by simp, fun resolve resolve' => ?_⟩
  cases hdecode' : Utf8.decode bytes' with
  | error e' =>
      have hne : e'.message ≠ e.message := fun heq =>
        hother (reading_eq_error.2 ⟨bytes', e', hfile', hdecode', heq⟩)
      simpa [ofAction, ofEdit, hfile, hdecode, hfile', hdecode', promised, Outcome.report,
        String.ext_iff] using Ne.symm hne
  | ok content =>
      have hnone : findMatch content [] .verbatim = none := rfl
      simp [ofAction, ofEdit, hfile, hdecode, hfile', hdecode', promised, Outcome.report,
        plan_of_none hnone]

/-- Of two texts one is told from the other by its deletion, if it is not shorter. -/
theorem tells_text {content content' : Text} (h : reading file? path = some (.ok content))
    (h' : reading other path = some (.ok content')) (hne : content ≠ content')
    (hlength : content'.length ≤ content.length) : Tells file? other path := by
  obtain ⟨bytes, hfile, hdecode⟩ := reading_eq_ok.1 h
  obtain ⟨bytes', hfile', hdecode'⟩ := reading_eq_ok.1 h'
  have hnonempty : content ≠ [] := by
    rintro rfl
    exact hne (List.length_eq_zero_iff.1 (Nat.le_zero.1 hlength)).symm
  obtain ⟨summary, hplan⟩ := plan_delete_self hnonempty
  refine ⟨.delete content .verbatim, by simp, fun resolve resolve' => ?_⟩
  simp only [ofAction, ofEdit, hfile, hdecode, hfile', hdecode', hplan,
    plan_of_none (findMatch_verbatim_other hne hlength), if_neg (Ne.symm hnonempty), promised,
    Outcome.report]
  simp

/-- Two views that differ in what is read at a path are told apart. -/
theorem exists_tells (h : reading file? path ≠ reading other path) : Tells file? other path := by
  cases hfile : file? path with
  | none =>
      cases hother : other path with
      | none => exact absurd (by rw [reading, reading, hfile, hother]) h
      | some bytes' => exact (tells_isSome (by simp [hother]) hfile).symm
  | some bytes =>
  cases hother : other path with
  | none => exact tells_isSome (by simp [hfile]) hother
  | some bytes' =>
  have hsome : (file? path).isSome ∧ (other path).isSome := by simp [hfile, hother]
  cases hdecode : Utf8.decode bytes with
  | error e =>
      have herror := reading_eq_error.2 ⟨bytes, e, hfile, hdecode, rfl⟩
      exact tells_error herror (herror ▸ h.symm) hsome.2
  | ok content =>
  cases hdecode' : Utf8.decode bytes' with
  | error e' =>
      have herror := reading_eq_error.2 ⟨bytes', e', hother, hdecode', rfl⟩
      exact (tells_error herror (herror ▸ h) hsome.1).symm
  | ok content' =>
      have htext := reading_eq_ok.2 ⟨bytes, hfile, hdecode⟩
      have htext' := reading_eq_ok.2 ⟨bytes', hother, hdecode'⟩
      have hne : content ≠ content' := by
        rintro rfl
        exact h (htext.trans htext'.symm)
      rcases Nat.le_total content'.length content.length with hle | hle
      · exact tells_text htext htext' hne hle
      · exact (tells_text htext' htext (Ne.symm hne) hle).symm

end Deed

namespace Session

variable {s s' : Session} {path : Path}

/-! ## The reports of dry runs -/

/-- A dry run reports what is promised. -/
theorem perform_dry (hdry : s.dryRun = true) (path : Path) (action : Action) :
    (s.perform path action).2 = (Deed.ofAction s.file? s.resolve path action).promised := by
  have hfits := Deed.fits_ofAction s.file? s.resolve path action
  rw [perform_eq]
  cases hdeed : Deed.ofAction s.file? s.resolve path action with
  | leave outcome => rfl
  | save content failing message => rw [carry, save, write_dry hdry]; rfl
  | delete => rw [carry, remove_dry hdry]; rfl
  | move destination written =>
      rw [hdeed] at hfits
      obtain ⟨bytes, hbytes⟩ := Option.isSome_iff_exists.1 hfits.1
      rw [carry, move_dry hdry hbytes]
      rfl

/-- Two sessions see alike at a written path. -/
structure SeesAlike (s s' : Session) (written : Text) : Prop where
  /-- It stands for the same in both. -/
  resolve : s.resolve written = s'.resolve written
  /-- The same is read there. -/
  reading : ∀ path, s.resolve written = .ok path →
    Deed.reading s.file? path = Deed.reading s'.file? path

variable (hdry : s.dryRun = true) (hdry' : s'.dryRun = true)

include hdry hdry'

/-- Where two dry runs see alike at each path that it names, a file patch has the same result
in both. -/
theorem execute_seesAlike {patch : FilePatch}
    (h : ∀ written ∈ patch.names, SeesAlike s s' written) :
    (s.execute patch).2 = (s'.execute patch).2 := by
  have hpath := h patch.path (by simp [FilePatch.names])
  unfold execute
  rw [← hpath.resolve]
  cases hresolve : s.resolve patch.path with
  | error e => rfl
  | ok path =>
      have hdeed : Deed.ofAction s.file? s.resolve path patch.action =
          Deed.ofAction s'.file? s'.resolve path patch.action := by
        refine Deed.ofAction_congr_reading (hpath.reading path hresolve) ?_
        intro written overwrite haction
        have hdest := h written (by simp [FilePatch.names, haction])
        exact ⟨hdest.resolve, hdest.reading⟩
      simp only [perform_dry hdry, perform_dry hdry', hdeed]

/-- Where two dry runs with one base do not see alike, they do not report the same of each
file patch for the path. -/
theorem exists_report_ne {written : Text} (hbase : s'.base = s.base)
    (hresolve : s.resolve written = .ok path) (h : ¬ SeesAlike s s' written) :
    ∃ patch : FilePatch, patch.names = [written] ∧
      (s.execute patch).2.outcome.report ≠ (s'.execute patch).2.outcome.report := by
  cases hresolve' : s'.resolve written with
  | error e =>
      refine ⟨⟨written, [], .createFile []⟩, rfl, ?_⟩
      simp only [execute, hresolve, hresolve', perform_dry hdry, Deed.ofAction]
      split <;> simp [Deed.promised, Outcome.report]
  | ok path' =>
      obtain rfl : path' = path := by
        rw [resolve, hbase] at hresolve'
        exact ((Guard.resolve_congr hresolve).1 hresolve').1
      have hreading : Deed.reading s.file? path' ≠ Deed.reading s'.file? path' := by
        refine fun heq => h ⟨hresolve.trans hresolve'.symm, fun p hp => ?_⟩
        rw [hresolve, Except.ok.injEq] at hp
        exact hp ▸ heq
      obtain ⟨action, hmove, hne⟩ := Deed.exists_tells hreading
      refine ⟨⟨written, [], action⟩, ?_, ?_⟩
      · unfold FilePatch.names
        split
        · next haction => exact absurd haction (hmove _ _)
        · rfl
      · simp only [execute, hresolve, hresolve', perform_dry hdry, perform_dry hdry']
        exact hne _ _

/-- Two dry runs with one base see alike at a path that stands for something in one of them,
exactly if they report the same of each file patch that names it, and names no other path at
which they do not see alike. -/
theorem seesAlike_iff {written : Text} (hbase : s'.base = s.base)
    (hresolve : s.resolve written = .ok path) :
    SeesAlike s s' written ↔ ∀ patch : FilePatch, written ∈ patch.names →
      (∀ w ∈ patch.names, w ≠ written → SeesAlike s s' w) →
        (s.execute patch).2.outcome.report = (s'.execute patch).2.outcome.report := by
  constructor
  · intro h patch _ hothers
    have hall : ∀ w ∈ patch.names, SeesAlike s s' w := fun w hw => by
      by_cases heq : w = written
      · exact heq ▸ h
      · exact hothers w hw heq
    rw [execute_seesAlike hdry hdry' hall]
  · intro h
    by_contra hno
    obtain ⟨patch, hnames, hne⟩ := exists_report_ne hdry hdry' hbase hresolve hno
    refine hne (h patch (by simp [hnames]) fun w hw hother => ?_)
    rw [hnames, List.mem_singleton] at hw
    exact absurd hw hother

end Session

end Emend
