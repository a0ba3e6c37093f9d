import Emend.Signature.Basic
/-!
# Parts of a header

A header is taken apart at its brackets: a list of parameters ends at the
parenthesis that closes it, and is cut at the commas that no bracket holds.
The angle of an arrow is no bracket.
-/

namespace Emend

/-! ## Brackets -/

/-- The text up to the parenthesis that closes the one opened `depth` levels
out, and what follows it. -/
def splitAtClosing? (depth : Nat) : Text → Option (Text × Text)
  | [] => none
  | c :: t =>
    if c = ')' ∧ depth ≤ 1 then some ([], t)
    else
      let depth := if c = '(' then depth + 1 else if c = ')' then depth - 1 else depth
      (splitAtClosing? depth t).map fun (inside, after) => (c :: inside, after)

/-- The offset of the parenthesis that closes the one just before `start`. -/
def closingParen? (start : Nat) (t : Text) : Option Nat := do
  let (_, rest) ← t.splitAt? start
  let (inside, _) ← splitAtClosing? 1 rest
  return start + Text.size inside

/-- The number of open brackets after a character, of which `prev` is the one
before. -/
def bracketDepth (depth : Nat) (prev c : Char) : Nat :=
  if c = '>' ∧ prev = '-' then depth
  else if c = '(' ∨ c = '<' ∨ c = '[' ∨ c = '{' then depth + 1
  else if c = ')' ∨ c = '>' ∨ c = ']' ∨ c = '}' then depth - 1
  else depth

/-- The pieces of a text between the commas that no bracket holds. -/
def commaPieces (depth : Nat) (prev : Char) : Text → List Text
  | [] => [[]]
  | c :: t =>
    if c = ',' ∧ depth = 0 then [] :: commaPieces 0 c t
    else match commaPieces (bracketDepth depth prev c) c t with
      | [] => [[c]]
      | piece :: pieces => (c :: piece) :: pieces

/-- The parts of a list: its pieces without the blanks around them, and without
those that hold blanks only. -/
def splitTopLevel (t : Text) : List Text :=
  ((commaPieces 0 ' ' t).map Text.trim).filter fun p => !p.isEmpty

/-! ## Parameters -/

/-- The text without the marks of references and pointers that lead it. -/
def dropReferences (t : Text) : Text := t.dropWhile fun c => c == '&' || c == '*'

/-- The parts before and after the first colon that is not one of a pair. -/
def splitAtColon? (prev : Char) : Text → Option (Text × Text)
  | [] => none
  | c :: t =>
    if c = ':' ∧ prev ≠ ':' ∧ t.head? ≠ some ':' then some ([], t)
    else (splitAtColon? c t).map fun (before, after) => (c :: before, after)

/-- The text with each ellipsis made a space. -/
def dropEllipses : Text → Text
  | [] => []
  | '.' :: '.' :: '.' :: t => ' ' :: dropEllipses t
  | c :: t => c :: dropEllipses t

/-- The words that qualify a parameter and are no part of its type. -/
def parameterQualifiers : List Text :=
  ["final", "const", "mut", "in", "out", "ref"].map String.toList

/-- A parameter given by its words: the type and then the name, or a type
alone. -/
def parameterOfWords? (words : List Text) : Option Parameter :=
  match words.reverse with
  | [] => none
  | last :: earlier =>
    if dropReferences last = "self".toList then some ⟨"self".toList, "Self".toList⟩
    else if earlier.isEmpty then some ⟨[], last⟩
    else some ⟨dropReferences last, Text.join [' '] earlier.reverse⟩

/-- The parameter that a part of a list declares.  Annotations and default
values are left out. -/
def parseParameter? (part : Text) : Option Parameter :=
  let kept := (Text.words part).filter fun w => w.head? ≠ some '@'
  let declared := Text.trim (Text.before (· == '=') (Text.join [' '] kept))
  if declared.isEmpty then none
  else match splitAtColon? ' ' declared with
    | some (before, after) =>
      some ⟨dropReferences ((Text.words before).getLastD []), Text.trim after⟩
    | none =>
      parameterOfWords?
        ((Text.words (dropEllipses declared)).filter fun w => !parameterQualifiers.contains w)

/-- The parameters of a list. -/
def parseParameters (t : Text) : List Parameter := (splitTopLevel t).filterMap parseParameter?

/-! ## Results and supertypes -/

/-- The type of the result, from what follows a list of parameters: it comes
after an arrow or a colon, and ends where the body or a condition starts. -/
def parseReturnType? (after : Text) : Option Text :=
  let after := Text.trimStart after
  let rest := (Text.afterLead? ['-', '>'] after).or (Text.afterLead? [':'] after)
  match rest with
  | none => none
  | some rest =>
    let type := Text.trim
      (Text.before (fun c => c == '{' || c == '=' || c == ';' || c == '\n') rest)
    let type := match Text.breakOn? " where ".toList type with
      | some (type, _) => Text.trim type
      | none => type
    if type.isEmpty then none else some type

/-- A supertype without the arguments that it is given. -/
def dropArguments (t : Text) : Text := Text.trim (Text.before (· == '(') t)

/-- The type that is extended and the interfaces, from the rest of a header. -/
def parseSupertypes (header : Text) : Option Text × List Text :=
  match Text.afterLead? [':'] header with
  | some list =>
    let parts := (splitTopLevel list).map dropArguments
    (parts.head?, parts.tail)
  | none =>
    let parent := (Text.breakOn? "extends ".toList header).bind fun (_, after) =>
      let list := match Text.breakOn? " implements ".toList after with
        | some (list, _) => list
        | none => after
      (splitTopLevel list).head?
    let interfaces := match Text.breakOn? "implements ".toList header with
      | some (_, list) => splitTopLevel list
      | none => []
    (parent, interfaces)

example : splitTopLevel "a: Map<K, V>, b: (A) -> B, ".toList =
    ["a: Map<K, V>".toList, "b: (A) -> B".toList] := by decide
example : parseParameter? "@A &mut self".toList = some ⟨"self".toList, "Self".toList⟩ := by
  decide
example : closingParen? 2 "f(a(b)c)".toList = some 7 := by decide

end Emend
