import Emend.Document.Parser
import Emend.Proofs.Document.Relocation
import Emend.Proofs.Match.Usable
import Emend.Proofs.Text.Blanks
import Emend.Settings
/-!
# What is read can be used

A document is read into file patches that can be carried out as far as this can be seen
from the document alone.

*Values.*  An option is read or is the default, and either way it has a value that it can
have: the defaults are in range, and so is what is read (`Yields`).

*Checks.*  A range of lines and a pattern are checked when everything that they depend on
has been read: the mode and the case, which come from the defaults or from the section.
So what has passed is what a search goes by (`matchOptions_yields`).

*Runs.*  The path of a section is settled by its header and does not change with its lines.
With this, each state of the reading holds file patches only that can be used
(`State.run_usable`).
-/

namespace Emend

/-- What an action that looks for a text looks for, and how it does. -/
def Action.search? : Action → Option (Text × MatchOptions)
  | replace find _ o | delete find o => some (find, o)
  | insertBefore marker _ o | insertAfter marker _ o => some (marker, o)
  | _ => none

/-- A file patch can be carried out as far as this can be seen from it. -/
structure FilePatch.Usable (f : FilePatch) : Prop where
  /-- There is a path. -/
  path_ne : f.path ≠ []
  /-- There are no blanks around it. -/
  path_trimmed : Text.trim f.path = f.path
  /-- What is looked for can be looked for. -/
  search : ∀ target o, f.action.search? = some (target, o) → o.Usable target

namespace Document

/-! ## What a step yields -/

/-- All that a step can give has a property. -/
def Yields {α : Type} (P : α → Prop) (result : Except DocumentError α) : Prop :=
  ∀ a, result = .ok a → P a

namespace Yields

variable {α β : Type} {P : α → Prop} {Q : β → Prop} {result : Except DocumentError α}

theorem ok {a : α} (h : P a) : Yields P (.ok a) := by
  rintro _ ⟨⟩
  exact h

theorem error (e : DocumentError) : Yields P (.error e) := by
  rintro _ ⟨⟩

theorem bind (h : Yields P result) {next : α → Except DocumentError β}
    (hnext : ∀ a, P a → Yields Q (next a)) : Yields Q (result >>= next) := by
  intro b hb
  cases result with
  | error e => cases hb
  | ok a => exact hnext a (h a rfl) b hb

theorem map {g : α → β} (h : Yields P result) (hg : ∀ a, P a → Q (g a)) :
    Yields Q (g <$> result) := by
  intro b hb
  cases result with
  | error e => cases hb
  | ok a =>
      cases hb
      exact hg a (h a rfl)

/-- Nothing is known of what a step gives but that it is given. -/
theorem given (result : Except DocumentError α) : Yields (result = .ok ·) result := fun _ => id

end Yields

/-! ## Options -/

section Options

variable (file : Text) (options : Entries Text)

theorem readOption_yields {α : Type} {P : α → Prop} (key : String) {read? : Text → Option α}
    (reason : String) {otherwise : α} (hdefault : P otherwise)
    (hread : ∀ t a, read? t = some a → P a) :
    Yields P (readOption file options key read? reason otherwise) := by
  unfold readOption
  split
  · exact .ok hdefault
  · split
    · next a ha => exact .ok (hread _ a ha)
    · exact .error _

/-- A number is a score. -/
def IsScore (x : Float) : Prop := 0.0 ≤ x ∧ x ≤ 1.0

theorem isScore_of_threshold? {t : Text} {x : Float} (h : threshold? t = some x) : IsScore x := by
  unfold threshold? at h
  obtain ⟨y, -, hy⟩ := Option.bind_eq_some_iff.1 h
  split at hy
  · next hrange =>
    cases hy
    simpa [IsScore] using hrange
  · cases hy

theorem le_of_depth? {t : Text} {n : Int} (h : depth? t = some n) : -1 ≤ n := by
  unfold depth? at h
  obtain ⟨m, -, hm⟩ := Option.bind_eq_some_iff.1 h
  split at hm
  · next hrange =>
    cases hm
    exact hrange
  · cases hm

theorem checkPattern_yields (pattern : Text) (caseSensitive : Bool) :
    Yields (fun _ => IsPattern caseSensitive pattern) (checkPattern file pattern caseSensitive) := by
  unfold checkPattern
  split
  · next node hnode => exact .ok ⟨node, hnode⟩
  · exact .error _

theorem checkMode_yields (mode : MatchMode) (text : Text) (caseSensitive : Bool) :
    Yields (fun _ => mode = .regex → IsPattern caseSensitive text)
      (checkMode file mode text caseSensitive) := by
  unfold checkMode
  split
  · exact fun u hu _ => checkPattern_yields file text caseSensitive u hu
  · next hmode => exact .ok fun h => absurd h hmode

theorem checkTarget_yields (target : Text) (m : MatchOptions) :
    Yields (fun _ =>
        (m.mode = .lineRange → ∃ first last,
          Literal.parseLineRange? target = some (first, last) ∧ 1 ≤ first ∧ first ≤ last) ∧
        (m.mode = .regex → IsPattern m.folding.caseSensitive target))
      (checkTarget file target m) := by
  unfold checkTarget
  split
  · next hmode =>
    split
    · next hrange =>
      refine .ok ⟨fun _ => ?_, by simp [hmode]⟩
      cases hparse : Literal.parseLineRange? target with
      | none => simp [hparse] at hrange
      | some bounds => exact ⟨bounds.1, bounds.2, rfl, by simpa [hparse] using hrange⟩
    · exact .error _
  · next hmode =>
    intro u hu
    exact ⟨by simp [hmode], fun _ => checkPattern_yields file target _ u hu⟩
  · next hlines hregex => exact .ok ⟨fun h => absurd h hlines, fun h => absurd h hregex⟩

/-- What holds of an anchor that has been read. -/
structure AnchorUsable (caseSensitive : Bool) (a : Anchor) : Prop where
  /-- Its level is one, or minus one. -/
  depth : -1 ≤ a.depth
  /-- Its text is a pattern if it is to be one. -/
  pattern : a.mode = .regex → IsPattern caseSensitive a.text

theorem anchorOption_yields {depth : Int} (hdepth : -1 ≤ depth) (text : Option Text)
    (caseSensitive : Bool) :
    Yields (fun anchor => ∀ a, anchor = some a → AnchorUsable caseSensitive a)
      (anchorOption file options text depth caseSensitive) := by
  cases text with
  | none => exact .ok (by simp)
  | some text =>
      refine Yields.map (P := AnchorUsable caseSensitive) ?_ fun a ha => by
        rintro _ ⟨⟩
        exact ha
      rw [anchorOf_eq]
      exact (Yields.given _).bind fun mode _ => (Yields.given _).bind fun scope _ =>
        (readOption_yields file options _ _ hdepth fun _ _ => le_of_depth?).bind fun depth hdepth =>
        (checkMode_yields file mode text caseSensitive).bind fun _ hpattern =>
        .ok ⟨hdepth, hpattern⟩

end Options

/-! ## Sections -/

section Build

variable {defaults : MatchDefaults} (hdefaults : Settings.issues defaults = [])

include hdefaults

theorem defaults_in_range : IsScore defaults.options.threshold ∧ -1 ≤ defaults.anchorDepth := by
  unfold Settings.issues at hdefaults
  obtain ⟨hscore, hdepth⟩ := List.append_eq_nil_iff.1 hdefaults
  constructor
  · simpa [IsScore] using hscore
  · simpa using hdepth

theorem matchOptions_yields (file target : Text) (options : Entries Text) (anchor : Option Text) :
    Yields (MatchOptions.Usable · target) (matchOptions defaults file target options anchor) := by
  obtain ⟨hscore, hdepth⟩ := defaults_in_range hdefaults
  rw [matchOptions_eq]
  exact (Yields.given _).bind fun mode _ =>
    (readOption_yields file options _ _ hscore fun _ _ => isScore_of_threshold?).bind
      fun threshold hthreshold =>
    (Yields.given _).bind fun windowSize _ =>
    (anchorOption_yields file options hdepth anchor _).bind fun anchor hanchor =>
    (checkTarget_yields file target _).bind fun _ hchecked =>
    .ok ⟨hthreshold, fun a ha => (hanchor a ha).depth, hchecked.1, hchecked.2,
      fun a ha => (hanchor a ha).pattern⟩

theorem actionOf_yields (s : Section) (kind : ActionKind) :
    Yields (fun action => ∀ target o, action.search? = some (target, o) → o.Usable target)
      (actionOf defaults s kind) := by
  have hblock := fun role label => Yields.given (blockOf s kind role label)
  have hoptions := fun target =>
    matchOptions_yields hdefaults s.path target s.options (s.blocks kind .anchor)
  unfold actionOf
  cases kind with
  | replace | insertBefore | insertAfter =>
      exact (hblock _ _).bind fun target _ => (hblock _ _).bind fun _ _ =>
        (hoptions target).bind fun o ho => .ok (by rintro _ _ ⟨⟩; exact ho)
  | delete =>
      exact (hblock _ _).bind fun target _ =>
        (hoptions target).bind fun o ho => .ok (by rintro _ _ ⟨⟩; exact ho)
  | createFile | replaceFile | moveFile =>
      exact (hblock _ _).bind fun _ _ => .ok (by simp [Action.search?])
  | deleteFile => exact .ok (by simp [Action.search?])

/-- A section names a path without blanks around it. -/
def Section.Named (s : Section) : Prop := s.path ≠ [] ∧ Text.trim s.path = s.path

theorem Section.build_yields {s : Section} (hs : s.Named) :
    Yields FilePatch.Usable (s.build defaults) := by
  unfold Section.build
  split
  · exact .error _
  · simp only
    split
    · exact .error _
    · next kind _ =>
      exact (actionOf_yields hdefaults s kind).bind fun action haction =>
        .ok ⟨hs.1, hs.2, haction⟩

end Build

namespace Section

variable {s : Section}

theorem trim_stripTicks (value : Text) : Text.trim (stripTicks value) = stripTicks value := by
  unfold stripTicks
  simp only
  split
  · split <;> exact Text.trim_trim _
  · exact Text.trim_trim _

theorem ofHeader_yields (header : Text) (line : Nat) : Yields Named (ofHeader header line) := by
  unfold ofHeader
  split
  next path destination hsplit =>
  have htrimmed : Text.trim path = path := by
    split at hsplit <;> cases hsplit <;> exact trim_stripTicks _
  split
  · exact .error _
  · next hne => exact .ok ⟨by simpa using hne, htrimmed⟩

theorem addField_path (key value : Text) (s : Section) : (s.addField key value).path = s.path := by
  unfold addField
  repeat' split
  all_goals rfl

theorem place_path (role : Option Role) (body : Text) (s : Section) :
    (place role body s).path = s.path := by
  cases role <;> rfl

theorem addBlock_path (fence : Fence) (body : Text) (s : Section) :
    (s.addBlock fence body).path = s.path := by
  cases fence with
  | backtick role => exact place_path _ _ _
  | bracket tag | sign tag =>
      simp only [addBlock]
      split
      · rfl
      · exact place_path _ _ _

theorem Named.of_path {t : Section} (h : s.Named) (heq : t.path = s.path) : t.Named := by
  unfold Named
  rw [heq]
  exact h

end Section

/-! ## The reading -/

namespace Progress

/-- What has been read can be used, and the section that is being read names a path. -/
structure Usable (p : Progress) : Prop where
  /-- The file patches can be used. -/
  files : ∀ f ∈ p.files, f.Usable
  /-- The section names a path. -/
  current : ∀ s, p.current = some s → s.Named

variable {defaults : MatchDefaults} {p : Progress}

theorem Usable.inSection (h : p.Usable) {f : Section → Section}
    (hf : ∀ s, (f s).path = s.path) : (p.inSection f).Usable := by
  refine ⟨h.files, fun t ht => ?_⟩
  obtain ⟨s, hs, rfl⟩ := Option.map_eq_some_iff.1 ht
  exact (h.current s hs).of_path (hf s)

variable (hdefaults : Settings.issues defaults = []) (h : p.Usable)

include hdefaults h

theorem closeSection_yields : Yields Usable (p.closeSection defaults) := by
  unfold closeSection
  split
  · exact .ok h
  · next s hs =>
    refine (Section.build_yields hdefaults (h.current s hs)).bind fun patch hpatch => .ok ?_
    refine ⟨fun f hf => ?_, by simp⟩
    rcases List.mem_append.1 hf with hf | hf
    · exact h.files f hf
    · rw [List.mem_singleton.1 hf]
      exact hpatch

theorem finish_yields : Yields (fun d => ∀ f ∈ d.files, f.Usable) (p.finish defaults) :=
  (closeSection_yields hdefaults h).bind fun _ hp => .ok hp.files

theorem beginSection_yields (header : Text) (line : Nat) :
    Yields Usable (p.beginSection defaults header line) :=
  (closeSection_yields hdefaults h).bind fun _ hp =>
    (Section.ofHeader_yields header line).bind fun _ hs =>
    .ok ⟨hp.files, by rintro _ ⟨⟩; exact hs⟩

end Progress

namespace State

/-- What has been read so far can be used. -/
def Usable : State → Prop
  | seeking | heading _ | failed _ => True
  | reading p | inBlock p _ _ _ => p.Usable
  | done d => ∀ f ∈ d.files, f.Usable

theorem ofResult_usable {α : Type} {P : α → Prop} {next : α → State}
    {result : Except DocumentError α} (h : Yields P result)
    (hnext : ∀ a, P a → (next a).Usable) : (ofResult next result).Usable := by
  cases result with
  | ok a => exact hnext a (h a rfl)
  | error e => trivial

theorem heading_usable (m : Metadata) : Progress.Usable { metadata := m } :=
  ⟨by simp, by simp⟩

variable {defaults : MatchDefaults} (hdefaults : Settings.issues defaults = [])

include hdefaults

theorem stepReading_usable {p : Progress} (h : p.Usable) (number : Nat) (line : Line) :
    (stepReading defaults number line p).Usable := by
  cases line with
  | patchEnd => exact ofResult_usable (Progress.finish_yields hdefaults h) fun _ => id
  | fileHeader header =>
      exact ofResult_usable (Progress.beginSection_yields hdefaults h header number) fun _ => id
  | separator => exact ofResult_usable (Progress.closeSection_yields hdefaults h) fun _ => id
  | field key value => exact h.inSection (Section.addField_path key value)
  | option key value => exact h.inSection fun _ => rfl
  | patchStart | fence | other => exact h

/-- A line keeps what has been read usable. -/
theorem step_usable {state : State} (h : state.Usable) (number : Nat) (raw : Text) :
    (step defaults state number raw).Usable := by
  cases state with
  | seeking =>
      simp only [step]
      split <;> trivial
  | heading m =>
      simp only [step]
      split
      · exact heading_usable m
      · trivial
      · exact stepReading_usable hdefaults (heading_usable m) number _
      · exact stepReading_usable hdefaults (heading_usable m) number _
      · trivial
  | reading p => exact stepReading_usable hdefaults h number _
  | inBlock p fence opened body =>
      simp only [step]
      split
      · exact Progress.Usable.inSection h (Section.addBlock_path fence _)
      · exact h
  | done | failed => exact h

/-- What is read of a document is usable all the while. -/
theorem run_usable {state : State} (h : state.Usable) (number : Nat) (lines : List Text) :
    (run defaults state number lines).Usable := by
  induction lines generalizing state number with
  | nil => exact h
  | cons raw rest ih => exact ih (step_usable hdefaults h number raw) (number + 1)

theorem finish_usable {state : State} (h : state.Usable) :
    Yields (fun d => ∀ f ∈ d.files, f.Usable) (state.finish defaults) := by
  cases state with
  | reading p => exact Progress.finish_yields hdefaults h
  | done d => exact .ok h
  | heading m => exact .ok (by simp)
  | seeking | inBlock | failed => exact .error _

end State

end Document

end Emend
