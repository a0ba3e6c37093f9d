import Emend.Toml.DateTime
/-!
# Contents of a TOML document

A document is a tree of tables.  A table is defined once, by a header, by
dotted keys, or as an inline table, and only a table that merely had to be
there for a longer header may still get a header of its own.

* `insert` puts an item at the keys of an assignment, starting from a table.
* `openTable` and `openElement` are the two kinds of headers.
* `modify` changes the table that a header has opened.

Each of them fails where the document would define something twice.
-/

namespace Emend.Toml

/-- How a table came to be. -/
inductive Origin where
  /-- By a header of its own. -/
  | header
  /-- On the way of a longer header. -/
  | implied
  /-- By dotted keys. -/
  | dotted
  deriving DecidableEq, Repr

/-- What stands at a key. -/
inductive Item where
  /-- A text. -/
  | text (t : Text)
  /-- A whole number. -/
  | integer (n : Int)
  /-- A double. -/
  | float (x : Float)
  /-- A yes or a no. -/
  | boolean (b : Bool)
  /-- A date or a time or both. -/
  | dateTime (d : DateTime)
  /-- A list of items. -/
  | array (items : List Item)
  /-- A table in braces. -/
  | inlineTable (entries : List (Text × Item))
  /-- A table. -/
  | table (origin : Origin) (entries : List (Text × Item))
  /-- Tables in a row, the last one first. -/
  | tables (last : List (Text × Item)) (earlier : List (List (Text × Item)))

/-- What stands at the keys of a table. -/
abbrev Entries := List (Text × Item)

namespace Entries

/-- The item at a key. -/
def get? (key : Text) (entries : Entries) : Option Item :=
  (entries.find? fun e => e.1 == key).map Prod.snd

/-- The entries with another item at a key. -/
def set (key : Text) (item : Item) : Entries → Entries
  | [] => [(key, item)]
  | (k, i) :: rest => if k = key then (key, item) :: rest else (k, i) :: set key item rest

/-- The entries with an item at the keys of an assignment.  The tables on the
way are new or made by dotted keys; one that a longer header made can be passed
but gets nothing of its own. -/
def insert (item : Item) : List Text → Entries → Option Entries
  | [], _ => none
  | [key], entries => if (entries.get? key).isSome then none else some (entries.set key item)
  | key :: next :: keys, entries =>
    match entries.get? key with
    | none => do
      let inner ← insert item (next :: keys) []
      return entries.set key (.table .dotted inner)
    | some (.table .dotted inner) => do
      let inner ← insert item (next :: keys) inner
      return entries.set key (.table .dotted inner)
    | some (.table .implied inner) =>
      if keys.isEmpty then none
      else do
        let inner ← insert item (next :: keys) inner
        return entries.set key (.table .implied inner)
    | some _ => none

/-- The entries with a change of the table to which keys lead; a missing table
is made. -/
def modify (change : Entries → Option Entries) : List Text → Entries → Option Entries
  | [], entries => change entries
  | key :: keys, entries =>
    match entries.get? key with
    | none => do return entries.set key (.table .implied (← modify change keys []))
    | some (.table origin inner) => do
      return entries.set key (.table origin (← modify change keys inner))
    | some (.tables last earlier) => do
      return entries.set key (.tables (← modify change keys last) earlier)
    | some _ => none

/-- The entries with the table of a header. -/
def openTable (path : List Text) (entries : Entries) : Option Entries := do
  let key ← path.getLast?
  entries.modify (fun inner =>
    match inner.get? key with
    | none => some (inner.set key (.table .header []))
    | some (.table .implied e) => some (inner.set key (.table .header e))
    | some _ => none) path.dropLast

/-- The entries with one more table in the row of a header. -/
def openElement (path : List Text) (entries : Entries) : Option Entries := do
  let key ← path.getLast?
  entries.modify (fun inner =>
    match inner.get? key with
    | none => some (inner.set key (.tables [] []))
    | some (.tables last earlier) => some (inner.set key (.tables [] (last :: earlier)))
    | some _ => none) path.dropLast

end Entries

end Emend.Toml
