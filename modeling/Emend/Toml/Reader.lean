import Emend.Toml.Scalar
/-!
# Reading TOML

A document is read line by line: a line is empty, a header in brackets, or an
assignment, and a comment may end it.  Values in brackets and braces may go
over several lines.

`read?` gives the entries of the root table.
-/

namespace Emend.Toml

/-! ## Blanks and comments -/

/-- What is left after spaces and tabs. -/
def dropSpaces (t : Text) : Text := t.dropWhile fun c => c == ' ' || c == '\t'

/-- What is left after the end of a line and its comment; the document may end
there too. -/
def lineEnd? (t : Text) : Option Text :=
  let rest := match dropSpaces t with
    | '#' :: t => t.dropWhile isPrintable
    | t => t
  match rest with
  | [] => some []
  | '\n' :: t => some t
  | '\r' :: '\n' :: t => some t
  | _ => none

/-- What is left after blanks, line breaks and comments. -/
def dropLines (inComment : Bool) : Text → Option Text
  | [] => some []
  | '\r' :: '\n' :: t => dropLines false t
  | '\n' :: t => dropLines false t
  | c :: t =>
    if inComment then if isPrintable c then dropLines true t else none
    else if c = ' ' ∨ c = '\t' then dropLines false t
    else if c = '#' then dropLines true t
    else some (c :: t)

/-! ## Keys -/

/-- A character of a key without quotes. -/
def isKeyChar (c : Char) : Bool := c.isAlphanum || c == '_' || c == '-'

/-- A key without dots. -/
def simpleKey? (t : Text) : Option (Text × Text) :=
  match t with
  | '"' :: rest => lineText '"' (rest.length + 1) rest
  | '\'' :: rest => lineText '\'' (rest.length + 1) rest
  | t =>
    let key := t.takeWhile isKeyChar
    if key.isEmpty then none else some (key, t.drop key.length)

/-- Keys with dots between them, and blanks around these; there are `most` at
most. -/
def keysUpTo? : (most : Nat) → Text → Option (List Text × Text)
  | 0, _ => none
  | most + 1, t => do
    let (key, rest) ← simpleKey? (dropSpaces t)
    match dropSpaces rest with
    | '.' :: rest =>
      let (keys, rest) ← keysUpTo? most rest
      return (key :: keys, rest)
    | rest => return ([key], rest)

/-- How many brackets and braces may be open at once, and how many keys a path
may have. -/
def mostNested : Nat := 80

/-- The keys of a path. -/
def keys? (t : Text) : Option (List Text × Text) := keysUpTo? mostNested t

/-! ## Values -/

/-- A character of a number, a yes or a no, a date or a time. -/
def isBareChar (c : Char) : Bool := isKeyChar c || c == '+' || c == '.' || c == ':'

/-- A word without quotes; a date takes in the time after a blank. -/
def bareWord (t : Text) : Text :=
  let word := t.takeWhile isBareChar
  match t.drop word.length with
  | ' ' :: c :: rest =>
    if c.isDigit && (date? word).any (·.2.isEmpty) then
      word ++ ' ' :: (c :: rest).takeWhile isBareChar
    else word
  | _ => word

mutual

/-- A value.  So many brackets and braces may be opened in it, and `fuel` bounds
how many values there are. -/
def value? : (fuel room : Nat) → Text → Option (Item × Text)
  | 0, _, _ => none
  | fuel + 1, room, t =>
    match t with
    | '"' :: _ | '\'' :: _ => (quotedText? t).map fun (s, rest) => (.text s, rest)
    | '[' :: t => do
      if room = 0 then none
      let (items, rest) ← items? fuel (room - 1) (← dropLines false t)
      return (.array items, rest)
    | '{' :: t => do
      if room = 0 then none
      let (entries, rest) ← pairs? fuel (room - 1) [] (← dropLines false t)
      return (.inlineTable entries, rest)
    | t => do
      let word := bareWord t
      return (← bareItem? word, t.drop word.length)

/-- The items of an array up to its bracket. -/
def items? : (fuel room : Nat) → Text → Option (List Item × Text)
  | 0, _, _ => none
  | _ + 1, _, ']' :: t => some ([], t)
  | fuel + 1, room, t => do
    let (item, rest) ← value? fuel room t
    match ← dropLines false rest with
    | ',' :: rest =>
      let (items, rest) ← items? fuel room (← dropLines false rest)
      return (item :: items, rest)
    | ']' :: rest => return ([item], rest)
    | _ => none

/-- The entries of an inline table up to its brace, after some others.  Lines
may end anywhere but between the keys of a path. -/
def pairs? : (fuel room : Nat) → Entries → Text → Option (Entries × Text)
  | 0, _, _, _ => none
  | _ + 1, _, entries, '}' :: t => some (entries, t)
  | fuel + 1, room, entries, t => do
    let (keys, rest) ← keys? t
    match ← dropLines false rest with
    | '=' :: rest =>
      let (item, rest) ← value? fuel room (← dropLines false rest)
      let entries ← entries.insert item keys
      match ← dropLines false rest with
      | ',' :: rest => pairs? fuel room entries (← dropLines false rest)
      | '}' :: rest => return (entries, rest)
      | _ => none
    | _ => none

end

/-! ## Documents -/

/-- What has been read of a document. -/
structure Draft where
  /-- The entries of the root table. -/
  root : Entries := []
  /-- The table that the last header has opened. -/
  path : List Text := []

/-- Reads a header in single or double brackets. -/
def header? (draft : Draft) (t : Text) : Option (Draft × Text) :=
  match t with
  | '[' :: t => do
    let (path, rest) ← keys? t
    let rest ← Text.afterLead? [']', ']'] rest
    return ({ root := ← draft.root.openElement path, path }, rest)
  | t => do
    let (path, rest) ← keys? t
    let rest ← Text.afterLead? [']'] rest
    return ({ root := ← draft.root.openTable path, path }, rest)

/-- Reads an assignment. -/
def assignment? (draft : Draft) (t : Text) : Option (Draft × Text) := do
  let (keys, rest) ← keys? t
  let rest ← Text.afterLead? ['='] rest
  let rest := dropSpaces rest
  let (item, rest) ← value? (2 * rest.length + 2) mostNested rest
  return ({ draft with root := ← draft.root.modify (Entries.insert item keys) draft.path }, rest)

/-- Reads the lines of a document; `fuel` bounds their number. -/
def lines? : (fuel : Nat) → Draft → Text → Option Draft
  | 0, _, _ => none
  | fuel + 1, draft, t =>
    match dropSpaces t with
    | [] => some draft
    | '[' :: t => do
      let (draft, rest) ← header? draft t
      lines? fuel draft (← lineEnd? rest)
    | t =>
      match lineEnd? t with
      | some rest => lines? fuel draft rest
      | none => do
        let (draft, rest) ← assignment? draft t
        lines? fuel draft (← lineEnd? rest)

/-- The entries of the root table of a document; a byte order mark before it
does not count. -/
def read? (t : Text) : Option Entries :=
  let t := (Text.afterLead? ['\uFEFF'] t).getD t
  (lines? (t.length + 1) {} t).map Draft.root

end Emend.Toml
