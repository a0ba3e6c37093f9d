import Emend.Document.Error
import Emend.Document.Line
/-!
# Sections of a document

A file section is collected line by line before it is looked at as a whole: its
fields and options by their keys, its blocks by their roles, and apart from
these the blocks without a label, in order.  What is given twice counts as it
is given last.
-/

namespace Emend.Document

/-- Texts by key. -/
def Entries (κ : Type) : Type := κ → Option Text

namespace Entries

variable {κ : Type}

/-- No texts. -/
def none : Entries κ := fun _ => Option.none

variable [DecidableEq κ]

/-- The text of one key set, in place of what it had. -/
def put (key : κ) (text : Text) (entries : Entries κ) : Entries κ :=
  fun k => if k = key then some text else entries k

/-- The text of one key taken away. -/
def erase (key : κ) (entries : Entries κ) : Entries κ :=
  fun k => if k = key then Option.none else entries k

theorem put_self (key : κ) (text : Text) (entries : Entries κ) :
    entries.put key text key = some text := if_pos rfl

theorem put_of_ne {key k : κ} (h : k ≠ key) (text : Text) (entries : Entries κ) :
    entries.put key text k = entries k := if_neg h

/-- Texts of different keys can be set in either order. -/
theorem put_comm {a b : κ} (h : a ≠ b) (s t : Text) (entries : Entries κ) :
    (entries.put a s).put b t = (entries.put b t).put a s := by
  funext k
  by_cases hb : k = b
  · subst hb
    simp [put, Ne.symm h]
  · by_cases ha : k = a <;> simp [put, ha, hb, h]

end Entries

/-- What the lines of a file section say. -/
structure Section where
  /-- The path of the file. -/
  path : Text
  /-- The destination that the header names. -/
  destination : Option Text := none
  /-- The action, as it is written. -/
  action : Option Text := none
  /-- The description. -/
  description : Text := []
  /-- The options and all other fields. -/
  options : Entries Text := Entries.none
  /-- The blocks with a label. -/
  labelled : Entries Role := Entries.none
  /-- The blocks without a label. -/
  unlabelled : List Text := []
  /-- The label that waits for its block. -/
  pending : Option Role := none

namespace Section

/-- The section under a header on the given line.  A header names a path, or a
path and the destination of a move after an arrow. -/
def ofHeader (header : Text) (line : Nat) : Except DocumentError Section :=
  let (path, destination) := match Text.breakOn? ['-', '>'] header with
    | some (path, destination) => (stripTicks path, some (stripTicks destination))
    | none => (stripTicks header, none)
  if path.isEmpty then .error (.missingPath line)
  else .ok { path, destination := destination.filter fun d => !d.isEmpty }

/-- The section with one more option. -/
def addOption (key value : Text) (s : Section) : Section :=
  { s with options := s.options.put key value }

/-- The section with one more block of a role. -/
def addLabelled (role : Role) (body : Text) (s : Section) : Section :=
  { s with labelled := s.labelled.put role body }

/-- The section with one more field.  The label of a block without a value
stands for the block that follows. -/
def addField (key value : Text) (s : Section) : Section :=
  if key = "ACTION".toList then { s with action := some (stripTicks value) }
  else if key = "DESCRIPTION".toList then { s with description := value }
  else if key = "OPTIONS".toList then s
  else match Role.ofLabel? key with
    | some role =>
      if value.isEmpty then { s with pending := some role }
      else s.addLabelled role (stripTicks value)
    | none => s.addOption key (stripTicks value)

/-- The section with a block that has a role, or has none. -/
def place (role : Option Role) (body : Text) (s : Section) : Section :=
  match role with
  | some role => s.addLabelled role body
  | none => { s with unlabelled := s.unlabelled ++ [body] }

/-- The section with one more block.  A label that waits goes before the tag of
backticks; tagged blocks take no other label, and one of them is an option. -/
def addBlock (fence : Fence) (body : Text) (s : Section) : Section :=
  match fence with
  | .backtick role => place (s.pending <|> role) body { s with pending := none }
  | .bracket tag | .sign tag =>
    let s := { s with pending := none }
    if tag = "OVERWRITE".toList then s.addOption tag (Text.trim body)
    else place (Role.ofLabel? tag) body s

end Section

end Emend.Document
