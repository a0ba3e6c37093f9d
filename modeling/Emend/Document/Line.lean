import Emend.Text.Blank
/-!
# The lines of a document

A document is read line by line, and what a line is depends on the line alone.
In this order, a line is

* the opening of a block: three backticks with a tag, `<<<` or `@@` with one;
* the start or the end of a patch;
* the header of a file section, or the separator that ends one;
* a field in bold letters, an item of a list of options, or a field in
  capitals; or
* a line that says nothing.

Blanks around a line do not count.
-/

namespace Emend.Document

/-- What a block is for. -/
inductive Role where
  /-- The text to find, or the marker of an insertion. -/
  | target
  /-- The replacement, or the destination of a move. -/
  | outcome
  /-- The replacement. -/
  | replacement
  /-- The text to put in. -/
  | content
  /-- The anchor. -/
  | anchor
  /-- The destination of a move. -/
  | destination
  deriving DecidableEq, Repr

/-- The labels of each role. -/
def Role.labels : Role → List String
  | target => ["FROM", "FIND", "TARGET", "MARKER", "REMOVE_THIS", "BEFORE_THIS", "AFTER_THIS"]
  | outcome => ["TO"]
  | replacement => ["REPLACE", "REPLACE_WITH", "REPLACEMENT"]
  | content => ["INSERT", "CONTENT", "INSERT_CONTENT"]
  | anchor => ["ANCHOR"]
  | destination => ["DESTINATION", "DEST"]

/-- The role of a label. -/
def Role.ofLabel? (label : Text) : Option Role :=
  [target, outcome, replacement, content, anchor, destination].find? fun r =>
    (r.labels.map String.toList).contains label

/-- How a block is delimited. -/
inductive Fence where
  /-- Between lines of three backticks; the tag may give the role. -/
  | backtick (role : Option Role)
  /-- From `<<< TAG` to `TAG >>>`. -/
  | bracket (tag : Text)
  /-- From `@@ TAG` to `@@`. -/
  | sign (tag : Text)
  deriving DecidableEq, Repr

namespace Fence

/-- What a block is called when it is not closed. -/
def tagName : Fence → Text
  | backtick _ => "code".toList
  | bracket tag => tag
  | sign tag => tag

/-- Whether a line, without the blanks around it, closes the block. -/
def closes (f : Fence) (line : Text) : Bool :=
  match f with
  | backtick _ => Text.startsWith ['\x60', '\x60', '\x60'] line
  | bracket tag =>
    line == ['>', '>', '>'] ||
      (Text.beforeTail? ['>', '>', '>'] line).any fun head =>
        Text.asciiLower (Text.trim head) == Text.asciiLower tag
  | sign _ => line == ['@', '@']

end Fence

/-- What a line of a document is. -/
inductive Line where
  /-- The start of a patch, with its name. -/
  | patchStart (name : Text)
  /-- The end of a patch. -/
  | patchEnd
  /-- A separator. -/
  | separator
  /-- The header of a file section. -/
  | fileHeader (header : Text)
  /-- The opening of a block. -/
  | fence (fence : Fence)
  /-- A field. -/
  | field (key value : Text)
  /-- An item of a list of options. -/
  | option (key value : Text)
  /-- A line that says nothing. -/
  | other
  deriving DecidableEq, Repr

/-- A key in the form in which keys are compared. -/
def normalizeKey (key : Text) : Text :=
  (Text.asciiUpper (Text.trim key)).map fun c => if c = ' ' ∨ c = '-' then '_' else c

/-- A value without the blanks around it, and without the backticks that may
enclose it. -/
def stripTicks (value : Text) : Text :=
  let value := Text.trim value
  match value with
  | '\x60' :: rest =>
    match Text.beforeTail? ['\x60'] rest with
    | some inside => Text.trim inside
    | none => value
  | _ => value

/-! ## Forms of lines -/

/-- A character of the tag of a block. -/
def isTagChar (c : Char) : Bool := c.isAlpha || c == '_'

/-- The tag that the rest of an opening line is. -/
def tagOf? (rest : Text) : Option Text :=
  let tag := Text.trim rest
  if !tag.isEmpty && tag.all isTagChar then some (Text.asciiUpper tag) else none

/-- The block that a line opens. -/
def fenceOf? (line : Text) : Option Fence :=
  match Text.afterLead? ['\x60', '\x60', '\x60'] line with
  | some tag => some (.backtick (Role.ofLabel? (normalizeKey tag)))
  | none =>
    match (Text.afterLead? ['<', '<', '<'] line).bind tagOf? with
    | some tag => some (.bracket tag)
    | none => ((Text.afterLead? ['@', '@'] line).bind tagOf?).map .sign

/-- The header of a file section that a line is. -/
def headerOf? (line : Text) : Option Text :=
  match Text.afterLead? "#### File:".toList line with
  | some path => some (Text.trim path)
  | none =>
    ((Text.afterLead? "--- FILE:".toList line).bind (Text.beforeTail? ['-', '-', '-'])).map
      Text.trim

/-- The key and the value of a field in bold letters: a key between pairs of
stars, with a colon just before or just after the second pair. -/
def boldField? (line : Text) : Option (Text × Text) := do
  let rest ← Text.afterLead? ['*', '*'] line
  let key := rest.takeWhile (· != '*')
  let after ← Text.afterLead? ['*', '*'] (rest.dropWhile (· != '*'))
  match Text.beforeTail? [':'] key with
  | some (c :: inside) => return (normalizeKey (c :: inside), Text.trim after)
  | _ =>
    let value ← Text.afterLead? [':'] after
    if key.isEmpty then none else return (normalizeKey key, Text.trim value)

/-- The value after a colon, with blanks around the colon. -/
def afterColon? (t : Text) : Option Text :=
  (Text.afterLead? [':'] (Text.trimStart t)).map Text.trim

/-- A character of the key of an option. -/
def isOptionChar (c : Char) : Bool := c.isAlphanum || c == '_' || c == ' '

/-- The text without a backtick that leads it. -/
def dropTick (t : Text) : Text := (Text.afterLead? ['\x60'] t).getD t

/-- The key and the value of an item of a list of options: a hyphen or a star,
blanks, a key that may stand between backticks, and a colon. -/
def optionItem? (line : Text) : Option (Text × Text) :=
  match line with
  | bullet :: blank :: rest =>
    if (bullet = '-' ∨ bullet = '*') ∧ isBlank blank then
      let rest := dropTick (Text.trimStart rest)
      let key := rest.takeWhile isOptionChar
      if key.head?.any Char.isAlpha then
        (afterColon? (dropTick (rest.dropWhile isOptionChar))).map fun value =>
          (normalizeKey key, stripTicks value)
      else none
    else none
  | _ => none

/-- A character of the key of a field in capitals. -/
def isCapitalChar (c : Char) : Bool := c.isUpper || c.isDigit || c == '_'

/-- The key and the value of a field in capitals. -/
def capitalField? (line : Text) : Option (Text × Text) :=
  let key := line.takeWhile isCapitalChar
  if key.head?.any Char.isUpper then
    (afterColon? (line.dropWhile isCapitalChar)).map fun value => (key, value)
  else none

/-- What a line is. -/
def Line.ofText (raw : Text) : Line :=
  let line := Text.trim raw
  match fenceOf? line with
  | some f => .fence f
  | none =>
    match Text.afterLead? "### PATCH:".toList line with
    | some name => .patchStart (Text.trim name)
    | none =>
      if line = "=== PATCH START ===".toList then .patchStart []
      else if line = "=== PATCH END ===".toList then .patchEnd
      else match headerOf? line with
        | some header => .fileHeader header
        | none =>
          if line = ['-', '-', '-'] then .separator
          else match boldField? line with
            | some (key, value) => .field key value
            | none =>
              match optionItem? line with
              | some (key, value) => .option key value
              | none =>
                match capitalField? line with
                | some (key, value) => .field key value
                | none => .other

example : Line.ofText "**Replace with:** x ".toList = .field "REPLACE_WITH".toList ['x'] := by
  decide
example : Line.ofText "- `MATCH_MODE`: `fuzzy`".toList =
    .option "MATCH_MODE".toList "fuzzy".toList := by decide
example : Line.ofText "@@ find".toList = .fence (.sign "FIND".toList) := by decide
example : Line.ofText "--- FILE: a.txt ---".toList = .fileHeader "a.txt".toList := by decide

end Emend.Document
