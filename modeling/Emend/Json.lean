import Emend.Text.Number
/-!
# JSON

Reports can be printed as JSON, with two spaces for each level and one entry to
a line.
-/

namespace Emend

/-- A JSON value. -/
inductive Json where
  /-- A text. -/
  | text (t : Text)
  /-- A count. -/
  | count (n : Nat)
  /-- A yes or a no. -/
  | boolean (b : Bool)
  /-- A list of values. -/
  | list (items : List Json)
  /-- Values by their names, in order. -/
  | object (entries : List (String × Json))

namespace Json

/-- A character of a text between quotes. -/
def escapeChar (c : Char) : Text :=
  if c = '"' then ['\\', '"']
  else if c = '\\' then ['\\', '\\']
  else if c = '\n' then ['\\', 'n']
  else if c = '\r' then ['\\', 'r']
  else if c = '\t' then ['\\', 't']
  else if c = '\x08' then ['\\', 'b']
  else if c = '\x0C' then ['\\', 'f']
  else if c.toNat < 0x20 then
    ['\\', 'u', '0', '0', Nat.digitChar (c.toNat / 16), Nat.digitChar (c.toNat % 16)]
  else [c]

/-- A text between quotes. -/
def quote (t : Text) : Text := '"' :: (t.flatMap escapeChar ++ ['"'])

/-- A new line at a level. -/
def newLine (level : Nat) : Text := '\n' :: List.replicate (2 * level) ' '

/-- Entries between brackets, each on a line of its own. -/
def bracketed (opening closing : Char) (level : Nat) (entries : List Text) : Text :=
  if entries.isEmpty then [opening, closing]
  else
    let separator := ',' :: newLine (level + 1)
    opening :: (newLine (level + 1) ++ Text.join separator entries ++ newLine level ++ [closing])

mutual

/-- A value as it is printed at a level. -/
def prettyAt (level : Nat) : Json → Text
  | text t => quote t
  | count n => Text.ofNat n
  | boolean b => if b then "true".toList else "false".toList
  | list items => bracketed '[' ']' level (prettyItems (level + 1) items)
  | object entries => bracketed '\x7b' '\x7d' level (prettyEntries (level + 1) entries)

/-- The items of a list as they are printed. -/
def prettyItems (level : Nat) : List Json → List Text
  | [] => []
  | item :: rest => prettyAt level item :: prettyItems level rest

/-- The entries of an object as they are printed. -/
def prettyEntries (level : Nat) : List (String × Json) → List Text
  | [] => []
  | (name, value) :: rest =>
    (quote name.toList ++ [':', ' '] ++ prettyAt level value) :: prettyEntries level rest

end

/-- A value as it is printed. -/
def pretty (j : Json) : Text := prettyAt 0 j

example : pretty (.object [("a", .list [.count 1]), ("b", .list [])]) =
    "\x7b\n  \"a\": [\n    1\n  ],\n  \"b\": []\n\x7d".toList := by decide +kernel

end Json

end Emend
