import Emend.Document.Parser
import Emend.Proofs.Document.Options
/-!
# Numbers of lines

A document is read by what its lines are; their numbers are told by faults and do
nothing else.  So the reading of lines that are numbered from further down goes the same
way (`State.run_shift`), and its fault is the same one further down.

Only two faults name a line: a section without a path and a block that is not closed.
What is wrong with a section as a whole names none (`Section.build_unplaced`).
-/

namespace Emend

namespace DocumentError

/-- The same fault, with its line moved. -/
def relocate (f : Nat → Nat) : DocumentError → DocumentError
  | missingPath line => missingPath (f line)
  | unterminatedBlock block line => unterminatedBlock block (f line)
  | e => e

theorem relocate_relocate (f g : Nat → Nat) (e : DocumentError) :
    (e.relocate f).relocate g = e.relocate (g ∘ f) := by
  cases e <;> rfl

end DocumentError

namespace Document

/-! ## Results without a line -/

/-- What is wrong is not told by a line. -/
def Unplaced {α : Type} (result : Except DocumentError α) : Prop :=
  ∀ f, result.mapError (DocumentError.relocate f) = result

namespace Unplaced

variable {α β : Type} {result : Except DocumentError α}

theorem ok (a : α) : Unplaced (.ok a) := fun _ => rfl

theorem bind (h : Unplaced result) {next : α → Except DocumentError β}
    (hnext : ∀ a, Unplaced (next a)) : Unplaced (result >>= next) := by
  intro f
  cases result with
  | ok a => exact hnext a f
  | error e => exact congrArg Except.error (Except.error.inj (h f))

theorem map (h : Unplaced result) (g : α → β) : Unplaced (g <$> result) := by
  intro f
  cases result with
  | ok a => rfl
  | error e => exact congrArg Except.error (Except.error.inj (h f))

end Unplaced

section Build

variable (defaults : MatchDefaults) (file : Text) (options : Entries Text)

theorem modeOf_unplaced (value : Text) : Unplaced (modeOf file value) := by
  unfold modeOf
  split
  · exact .ok _
  · exact fun _ => rfl

theorem readOption_unplaced {α : Type} (key : String) (read? : Text → Option α)
    (reason : String) (otherwise : α) :
    Unplaced (readOption file options key read? reason otherwise) := by
  unfold readOption
  split
  · exact .ok _
  · split
    · exact .ok _
    · exact fun _ => rfl

theorem checkPattern_unplaced (pattern : Text) (caseSensitive : Bool) :
    Unplaced (checkPattern file pattern caseSensitive) := by
  unfold checkPattern
  split
  · exact .ok _
  · exact fun _ => rfl

theorem checkTarget_unplaced (target : Text) (m : MatchOptions) :
    Unplaced (checkTarget file target m) := by
  unfold checkTarget
  split
  · split
    · exact .ok _
    · exact fun _ => rfl
  · exact checkPattern_unplaced file target _
  · exact .ok _

theorem modeOption_unplaced (key : String) (otherwise : MatchMode) :
    Unplaced (modeOption file options key otherwise) := by
  unfold modeOption
  split
  · exact modeOf_unplaced file _
  · exact .ok _

theorem scopeOption_unplaced : Unplaced (scopeOption file options) := by
  unfold scopeOption
  split
  · exact .ok _
  · split
    · exact .ok _
    · exact fun _ => rfl

theorem checkMode_unplaced (mode : MatchMode) (text : Text) (caseSensitive : Bool) :
    Unplaced (checkMode file mode text caseSensitive) := by
  unfold checkMode
  split
  · exact checkPattern_unplaced file text caseSensitive
  · exact .ok _

theorem anchorOption_unplaced (text : Option Text) (depth : Int) (caseSensitive : Bool) :
    Unplaced (anchorOption file options text depth caseSensitive) := by
  cases text with
  | none => exact .ok _
  | some text =>
      refine Unplaced.map ?_ _
      rw [anchorOf_eq]
      exact (modeOption_unplaced file options _ _).bind fun mode =>
        (scopeOption_unplaced file options).bind fun _ =>
        (readOption_unplaced file options _ _ _ _).bind fun _ =>
        (checkMode_unplaced file mode text caseSensitive).bind fun _ => .ok _

theorem matchOptions_unplaced (target : Text) (anchor : Option Text) :
    Unplaced (matchOptions defaults file target options anchor) := by
  rw [matchOptions_eq]
  exact (modeOption_unplaced file options _ _).bind fun _ =>
    (readOption_unplaced file options _ _ _ _).bind fun _ =>
    (readOption_unplaced file options _ _ _ _).bind fun _ =>
    (anchorOption_unplaced file options anchor _ _).bind fun _ =>
    (checkTarget_unplaced file target _).bind fun _ => .ok _

/-- The block of a section that an action asks for. -/
def blockOf (s : Section) (kind : ActionKind) (role : Role) (label : String) :
    Except DocumentError Text :=
  match s.blocks kind role with
  | some body => .ok body
  | none => .error (.missingBlock s.path kind.name label)

theorem blockOf_unplaced (s : Section) (kind : ActionKind) (role : Role) (label : String) :
    Unplaced (blockOf s kind role label) := by
  unfold blockOf
  split
  · exact .ok _
  · exact fun _ => rfl

theorem actionOf_unplaced (s : Section) (kind : ActionKind) :
    Unplaced (actionOf defaults s kind) := by
  have hblock := blockOf_unplaced s kind
  have hoptions := matchOptions_unplaced defaults s.path s.options
  unfold actionOf
  cases kind with
  | replace | insertBefore | insertAfter =>
      exact (hblock _ _).bind fun target => (hblock _ _).bind fun _ =>
        (hoptions target _).bind fun _ => .ok _
  | delete => exact (hblock _ _).bind fun target => (hoptions target _).bind fun _ => .ok _
  | createFile | replaceFile | moveFile => exact (hblock _ _).bind fun _ => .ok _
  | deleteFile => exact .ok _

end Build

/-- What is wrong with a section as a whole is told without a line. -/
theorem Section.build_unplaced (defaults : MatchDefaults) (s : Section) :
    Unplaced (s.build defaults) := by
  unfold Section.build
  split
  · exact fun _ => rfl
  · simp only
    split
    · exact fun _ => rfl
    · exact (actionOf_unplaced defaults s _).bind fun _ => .ok _

/-- A header that names no path is told by its line. -/
theorem Section.ofHeader_relocate (header : Text) (line : Nat) (f : Nat → Nat) :
    Section.ofHeader header (f line) =
      (Section.ofHeader header line).mapError (DocumentError.relocate f) := by
  unfold Section.ofHeader
  split
  split <;> rfl

/-! ## Lines further down -/

namespace Progress

variable (defaults : MatchDefaults)

theorem closeSection_unplaced (p : Progress) : Unplaced (p.closeSection defaults) := by
  unfold closeSection
  split
  · exact .ok _
  · exact (Section.build_unplaced defaults _).bind fun _ => .ok _

theorem finish_unplaced (p : Progress) : Unplaced (p.finish defaults) :=
  (closeSection_unplaced defaults p).bind fun _ => .ok _

theorem beginSection_relocate (header : Text) (line : Nat) (p : Progress) (f : Nat → Nat) :
    p.beginSection defaults header (f line) =
      (p.beginSection defaults header line).mapError (DocumentError.relocate f) := by
  unfold beginSection
  rw [Section.ofHeader_relocate]
  have hclose := closeSection_unplaced defaults p f
  cases hp : p.closeSection defaults with
  | ok p => cases Section.ofHeader header line <;> rfl
  | error e =>
      rw [hp] at hclose
      exact hclose.symm

end Progress

namespace State

variable (defaults : MatchDefaults)

/-- The same state, with its lines `k` further down. -/
def shift (k : Nat) : State → State
  | inBlock p fence opened body => inBlock p fence (opened + k) body
  | failed e => failed (e.relocate (· + k))
  | s => s

theorem ofResult_relocate {α : Type} (next : α → State) {k : Nat}
    (hnext : ∀ a, (next a).shift k = next a) (result : Except DocumentError α) :
    ofResult next (result.mapError (DocumentError.relocate (· + k))) =
      (ofResult next result).shift k := by
  cases result with
  | ok a => exact (hnext a).symm
  | error e => rfl

theorem stepReading_shift (number k : Nat) (line : Line) (p : Progress) :
    stepReading defaults (number + k) line p = (stepReading defaults number line p).shift k := by
  cases line with
  | patchEnd =>
      have h := ofResult_relocate done (k := k) (fun _ => rfl) (p.finish defaults)
      rwa [Progress.finish_unplaced] at h
  | separator =>
      have h := ofResult_relocate reading (k := k) (fun _ => rfl)
        (p.closeSection defaults)
      rwa [Progress.closeSection_unplaced] at h
  | fileHeader header =>
      have h := ofResult_relocate reading (k := k) (fun _ => rfl)
        (p.beginSection defaults header number)
      rwa [← Progress.beginSection_relocate] at h
  | patchStart | fence | field | option | other => rfl

/-- A line further down is read as it is. -/
theorem step_shift (state : State) (number k : Nat) (raw : Text) :
    step defaults (state.shift k) (number + k) raw = (step defaults state number raw).shift k := by
  cases state with
  | seeking =>
      simp only [shift, step]
      split <;> rfl
  | heading m =>
      simp only [shift, step]
      split
      · rfl
      · rfl
      · exact stepReading_shift defaults number k _ _
      · exact stepReading_shift defaults number k _ _
      · rfl
  | reading p => exact stepReading_shift defaults number k _ _
  | inBlock p fence opened body =>
      simp only [shift, step]
      split <;> rfl
  | done | failed => rfl

/-- Lines further down are read as they are. -/
theorem run_shift (state : State) (number k : Nat) (lines : List Text) :
    run defaults (state.shift k) (number + k) lines =
      (run defaults state number lines).shift k := by
  induction lines generalizing state number with
  | nil => rfl
  | cons raw rest ih =>
      rw [run, run, step_shift, Nat.add_right_comm]
      exact ih _ _

theorem finish_shift (state : State) (k : Nat) :
    (state.shift k).finish defaults =
      (state.finish defaults).mapError (DocumentError.relocate (· + k)) := by
  cases state with
  | reading p => exact (Progress.finish_unplaced defaults p _).symm
  | seeking | heading | inBlock | done | failed => rfl

theorem run_append (state : State) (number : Nat) (first rest : List Text) :
    run defaults state number (first ++ rest) =
      run defaults (run defaults state number first) (number + first.length) rest := by
  induction first generalizing state number with
  | nil => rfl
  | cons raw first ih =>
      rw [List.cons_append, run, run, ih, List.length_cons]
      congr 1
      omega

end State

end Document

end Emend
