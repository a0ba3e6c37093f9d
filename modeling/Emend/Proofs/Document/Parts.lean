import Emend.Proofs.Document.Scan
/-!
# Parts of a file section

A file section is made of parts, and each part says one thing (`Saying`): the action, the
description, an option, the text of a role, or a text without a label.  What the lines of a
part say is `Says`.

* The action, the description and an option are one line.  An option may also be a block with
  the tag `OVERWRITE`.
* The text of a role is a block between backticks right after a line with a label, or a block
  whose tag is a label, or the value of a field whose key is one.
* A text without a label is a block whose tag is none.
* A blank line and the title of the options say nothing.

Whatever part is read puts what it says into the section and leaves no label waiting
(`Part.run`), so a section holds in the end what its parts say, one after another (`run_parts`).
-/

namespace Emend.Document

/-! ## Sayings -/

/-- What a part of a file section says. -/
inductive Saying where
  /-- The action, as it is written. -/
  | action (written : Text)
  /-- The description. -/
  | description (text : Text)
  /-- The value of an option. -/
  | option (key value : Text)
  /-- The text of a role. -/
  | block (role : Role) (body : Text)
  /-- A text without a label. -/
  | unlabelled (body : Text)
  /-- Nothing. -/
  | nothing
  deriving DecidableEq

namespace Saying

/-- The section in which this is said, too. -/
def add : Saying → Section → Section
  | action written, s => { s with action := some written }
  | description text, s => { s with description := text }
  | option key value, s => s.addOption key value
  | block role body, s => s.addLabelled role body
  | unlabelled body, s => { s with unlabelled := s.unlabelled ++ [body] }
  | nothing, s => s

theorem add_pending (saying : Saying) (s : Section) : (saying.add s).pending = s.pending := by
  cases saying <;> rfl

end Saying

/-- A section after all that is said in order. -/
def Section.collect (sayings : List Saying) (s : Section) : Section :=
  sayings.foldl (fun s saying => saying.add s) s

/-! ## Blocks -/

/-- The role that the tag of a block gives. -/
def Fence.role? : Fence → Option Role
  | backtick role => role
  | bracket tag | sign tag => Role.ofLabel? tag

/-- The lines of a block that is closed, and its text. -/
inductive Fenced (fence : Fence) : List Text → Text → Prop where
  | closed {first last : Text} {content : List Text} :
    Line.ofText first = .fence fence →
    (∀ line ∈ content, fence.closes (Text.trim line) = false) →
    fence.closes (Text.trim last) = true →
    Fenced fence (first :: (content ++ [last])) (blockText content.reverse)

namespace Section

variable {s : Section} {fence : Fence}

theorem setPending_eq (h : s.pending = none) : { s with pending := none } = s := by
  rw [← h]

theorem addBlock_overwrite (hpending : s.pending = none)
    (htag : fence.tagName = "OVERWRITE".toList) (body : Text) :
    s.addBlock fence body = s.addOption "OVERWRITE".toList (Text.trim body) := by
  cases fence with
  | backtick => exact absurd (show "code".toList = "OVERWRITE".toList from htag) (by decide)
  | bracket tag | sign tag =>
      obtain rfl : tag = "OVERWRITE".toList := htag
      rw [addBlock, if_pos rfl, setPending_eq hpending]

/-- A block that no label waits for has the role of its tag. -/
theorem addBlock_eq_place (hpending : s.pending = none)
    (htag : fence.tagName ≠ "OVERWRITE".toList) (body : Text) :
    s.addBlock fence body = s.place fence.role? body := by
  cases fence with
  | backtick =>
      simp only [addBlock, hpending, setPending_eq hpending]
      rfl
  | bracket tag | sign tag =>
      have hne : tag ≠ "OVERWRITE".toList := htag
      simp only [addBlock, setPending_eq hpending, if_neg hne]
      rfl

/-- A block between backticks has the role of the label that waits for it. -/
theorem addBlock_of_pending (hpending : s.pending = none) (role : Role) (tag : Option Role)
    (body : Text) :
    Section.addBlock (.backtick tag) body { s with pending := some role } =
      s.addLabelled role body := by
  have hdone : ({ s with pending := none } : Section) = s := setPending_eq hpending
  exact congrArg (Section.addLabelled role body) hdone

end Section

/-- No tag that is a label is that of the option. -/
theorem tagName_ne_of_role {fence : Fence} {role : Role} (h : fence.role? = some role) :
    fence.tagName ≠ "OVERWRITE".toList := by
  cases fence with
  | backtick => exact show "code".toList ≠ "OVERWRITE".toList by decide
  | bracket tag | sign tag =>
      intro heq
      obtain rfl : tag = "OVERWRITE".toList := heq
      exact absurd (show none = some role from h) nofun

/-! ## What lines say -/

/-- What the lines of a part say. -/
inductive Says : List Text → Saying → Prop where
  /-- The field of the action. -/
  | action {line value : Text} : Line.ofText line = .field "ACTION".toList value →
    Says [line] (.action (stripTicks value))
  /-- The field of the description. -/
  | description {line value : Text} : Line.ofText line = .field "DESCRIPTION".toList value →
    Says [line] (.description value)
  /-- An item of a list of options. -/
  | item {line key value : Text} : Line.ofText line = .option key value →
    Says [line] (.option key value)
  /-- A field whose key is no other and no label. -/
  | field {line key value : Text} : Line.ofText line = .field key value →
    key ∉ ["ACTION".toList, "DESCRIPTION".toList, "OPTIONS".toList] → Role.ofLabel? key = none →
    Says [line] (.option key (stripTicks value))
  /-- A block with the tag of an option. -/
  | overwrite {fence : Fence} {lines : List Text} {body : Text} :
    fence.tagName = "OVERWRITE".toList → Fenced fence lines body →
    Says lines (.option "OVERWRITE".toList (Text.trim body))
  /-- A label, and a block between backticks right after it. -/
  | labelled {label key body : Text} {role : Role} {tag : Option Role} {lines : List Text} :
    Line.ofText label = .field key [] → Role.ofLabel? key = some role →
    Fenced (.backtick tag) lines body → Says (label :: lines) (.block role body)
  /-- A block whose tag is a label. -/
  | tagged {fence : Fence} {role : Role} {lines : List Text} {body : Text} :
    fence.role? = some role → Fenced fence lines body → Says lines (.block role body)
  /-- A label with a value. -/
  | inline {line key value : Text} {role : Role} : Line.ofText line = .field key value →
    value ≠ [] → Role.ofLabel? key = some role → Says [line] (.block role (stripTicks value))
  /-- A block whose tag is none. -/
  | unlabelled {fence : Fence} {lines : List Text} {body : Text} :
    fence.tagName ≠ "OVERWRITE".toList → fence.role? = none → Fenced fence lines body →
    Says lines (.unlabelled body)
  /-- A line that is none of these. -/
  | other {line : Text} : Line.ofText line = .other → Says [line] .nothing
  /-- The title of the options. -/
  | title {line value : Text} : Line.ofText line = .field "OPTIONS".toList value →
    Says [line] .nothing

/-- A part of a file section. -/
structure Part where
  lines : List Text
  /-- What it says. -/
  saying : Saying
  meaning : Says lines saying

/-! ## Reading parts -/

namespace Section

theorem addField_of_label {key : Text} {role : Role} (h : Role.ofLabel? key = some role)
    (value : Text) (s : Section) :
    s.addField key value =
      if value.isEmpty then { s with pending := some role }
      else s.addLabelled role (stripTicks value) := by
  have hne : ∀ other : String, Role.ofLabel? other.toList = none → key ≠ other.toList := by
    rintro other hother rfl
    rw [h] at hother
    cases hother
  unfold addField
  rw [if_neg (hne "ACTION" (by decide)), if_neg (hne "DESCRIPTION" (by decide)),
    if_neg (hne "OPTIONS" (by decide)), h]

theorem addField_of_other {key : Text}
    (hkey : key ∉ ["ACTION".toList, "DESCRIPTION".toList, "OPTIONS".toList])
    (hlabel : Role.ofLabel? key = none) (value : Text) (s : Section) :
    s.addField key value = s.addOption key (stripTicks value) := by
  simp only [List.mem_cons, List.not_mem_nil, or_false, not_or] at hkey
  unfold addField
  rw [if_neg hkey.1, if_neg hkey.2.1, if_neg hkey.2.2, hlabel]

end Section

section Run

variable (defaults : MatchDefaults) (p : Progress) {s : Section}

theorem run_field {line key value : Text} (h : Line.ofText line = .field key value)
    (number : Nat) : State.run defaults (within p s) number [line] =
      within p (s.addField key value) := by
  simp only [State.run, State.step, within, h]
  rfl

theorem run_fenced {fence : Fence} {lines : List Text} {body : Text} (h : Fenced fence lines body)
    (number : Nat) : State.run defaults (within p s) number lines =
      within p (s.addBlock fence body) := by
  cases h with
  | @closed first last content hfirst hcontent hlast =>
      have hopen : State.step defaults (within p s) number first =
          .inBlock { p with current := some s } fence number [] := by
        simp only [State.step, within, hfirst]
        rfl
      rw [State.run, hopen, State.run_append, Reads.run_inBlock hcontent, List.append_nil,
        State.run, State.run]
      simp only [State.step, hlast]
      rfl

/-- A part puts what it says into the section, and no label waits after it. -/
theorem Part.run (part : Part) (hpending : s.pending = none) (number : Nat) :
    State.run defaults (within p s) number part.lines = within p (part.saying.add s) := by
  obtain ⟨lines, saying, hmeaning⟩ := part
  cases hmeaning with
  | action hline | description hline | title hline => exact run_field defaults p hline number
  | item hline =>
      simp only [State.run, State.step, within, hline]
      rfl
  | field hline hkey hlabel =>
      rw [run_field defaults p hline, Section.addField_of_other hkey hlabel]
      rfl
  | overwrite htag hblock =>
      rw [run_fenced defaults p hblock, Section.addBlock_overwrite hpending htag]
      rfl
  | @labelled label key body role tag lines hlabel hrole hblock =>
      have hwaits : s.addField key [] = { s with pending := some role } :=
        Section.addField_of_label hrole [] s
      have hread := run_field defaults p (s := s) hlabel number
      rw [State.run, State.run, hwaits] at hread
      rw [State.run, hread, run_fenced defaults p hblock, Section.addBlock_of_pending hpending]
      rfl
  | tagged hrole hblock =>
      rw [run_fenced defaults p hblock,
        Section.addBlock_eq_place hpending (tagName_ne_of_role hrole), hrole]
      rfl
  | inline hline hvalue hrole =>
      rw [run_field defaults p hline, Section.addField_of_label hrole,
        if_neg (by simpa using hvalue)]
      rfl
  | unlabelled htag hrole hblock =>
      rw [run_fenced defaults p hblock, Section.addBlock_eq_place hpending htag, hrole]
      rfl
  | other hline =>
      simp only [State.run, State.step, within, hline]
      rfl

/-- A section holds in the end what its parts say, one after another. -/
theorem run_parts (parts : List Part) (hpending : s.pending = none) (number : Nat) :
    State.run defaults (within p s) number (parts.flatMap Part.lines) =
      within p (s.collect (parts.map Part.saying)) := by
  induction parts generalizing s number with
  | nil => rfl
  | cons part parts ih =>
      rw [List.flatMap_cons, State.run_append, part.run defaults p hpending,
        ih ((part.saying.add_pending s).trans hpending)]
      rfl

end Run

end Emend.Document
