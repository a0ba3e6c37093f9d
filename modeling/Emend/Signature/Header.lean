import Emend.Pattern.Compile
import Emend.Signature.Parts
/-!
# Finding declarations

A declaration is recognised by the shape of its header.  Three shapes are
functions: one with the keyword `fun`, one with the keyword `fn`, and one that
names a type and then the function.  One shape is a class or another declared
type.  This is a matter of recognition and not of grammar: what looks like a
header is taken for one, and what looks unusual is not found.

In each shape group 1 holds the modifiers.
-/

namespace Emend

open Pattern (Form)

/-! ## Shapes -/

/-- One of the given characters. -/
def oneOf (chars : String) : Form := .set (CharSet.ofList chars.toList)

/-- A character that is none of those given. -/
def noneOf (chars : String) : Form := .set (CharSet.ofList chars.toList).compl

/-- A given text. -/
def literalForm (t : String) : Form := .text t.toList

/-- The modifiers of functions. -/
def functionModifiers : List String :=
  ["public", "private", "protected", "internal", "open", "override", "suspend", "inline",
   "operator", "infix", "tailrec", "external", "static", "final", "synchronized", "native",
   "abstract", "default", "virtual", "async", "unsafe", "const", "extern"]

/-- The modifiers of classes. -/
def classModifiers : List String :=
  ["public", "private", "protected", "internal", "open", "abstract", "sealed", "data", "inner",
   "value", "annotation", "static", "final"]

/-- The modifier that may be restricted by parentheses. -/
def restrictedForm : Form :=
  .inRow [literalForm "pub", .opt (.inRow [literalForm "(", .star (noneOf ")"), literalForm ")"])]

/-- Type parameters between angles. -/
def anglesForm : Form := .inRow [literalForm "<", .star (noneOf ">"), literalForm ">"]

/-- The characters of which the shapes are made. -/
structure Alphabet where
  /-- The characters of words. -/
  word : CharSet
  /-- The blanks. -/
  space : CharSet

namespace Alphabet

/-- The characters of all scripts. -/
def unicode : Alphabet := ⟨Pattern.wordSet, Pattern.spaceSet⟩

variable (a : Alphabet)

/-- A word. -/
def identifierForm : Form := .plus (.set a.word)

/-- Blanks, if any. -/
def blanksForm : Form := .star (.set a.space)

/-- One blank or more. -/
def someBlanksForm : Form := .plus (.set a.space)

/-- A character of a word or one of those given. -/
def wordOr (chars : String) : Form := .set (a.word.union (CharSet.ofList chars.toList))

/-- Modifiers, each of them followed by blanks, as group 1.  The last of the
alternatives is the one that may be restricted. -/
def modifiersForm (words : List String) : Form :=
  .group 1 (.star (.inRow [.eitherOf (words.map literalForm ++ [restrictedForm]),
    a.someBlanksForm]))

/-- The start of a header, which is at the edge of a word. -/
def headerStart (modifiers : List String) : Form :=
  .inRow [.look (.wordEdge a.word), a.modifiersForm modifiers]

/-- The form of a function with the keyword `fun`: perhaps with type
parameters and with a receiver before its name, which is group 2. -/
def funForm : Form :=
  .inRow [a.headerStart functionModifiers, literalForm "fun", a.someBlanksForm,
    .opt (.inRow [anglesForm, a.blanksForm]),
    .opt (.inRow [.plus (a.wordOr "<>?,. "), literalForm "."]),
    .group 2 a.identifierForm, a.blanksForm, literalForm "("]

/-- The form of a function with the keyword `fn`: its name is group 2. -/
def fnForm : Form :=
  .inRow [a.headerStart functionModifiers, literalForm "fn", a.someBlanksForm,
    .group 2 a.identifierForm, a.blanksForm, .opt anglesForm, a.blanksForm, literalForm "("]

/-- The form of a function that starts with a type: the type is group 2 and
the name group 3. -/
def typedForm : Form :=
  .inRow [a.headerStart functionModifiers,
    .group 2 (.inRow [.plus (a.wordOr ".:"),
      .opt (.inRow [literalForm "<", .star (noneOf ">()"), literalForm ">"]),
      .star (literalForm "[]"), .opt (oneOf "*&")]),
    a.someBlanksForm, .opt (oneOf "*&"), .group 3 a.identifierForm, a.blanksForm, literalForm "("]

/-- The form of a class: its name is group 2 and what its angles hold is
group 3. -/
def classForm : Form :=
  .inRow [a.headerStart classModifiers,
    .eitherOf [literalForm "class", literalForm "interface", literalForm "struct",
      literalForm "object",
      .inRow [literalForm "enum", .opt (.inRow [a.someBlanksForm, literalForm "class"])],
      literalForm "trait", literalForm "record"],
    a.someBlanksForm, .group 2 a.identifierForm,
    .opt (.inRow [a.blanksForm, literalForm "<", .group 3 (.star (noneOf ">")), literalForm ">"])]

end Alphabet

/-- The shape of a function with the keyword `fun`. -/
def funShape : Pattern.Node := Alphabet.unicode.funForm.toNode

/-- The shape of a function with the keyword `fn`. -/
def fnShape : Pattern.Node := Alphabet.unicode.fnForm.toNode

/-- The shape of a function that starts with a type. -/
def typedShape : Pattern.Node := Alphabet.unicode.typedForm.toNode

/-- The shape of a class. -/
def classShape : Pattern.Node := Alphabet.unicode.classForm.toNode

/-! ## Functions -/

/-- Words that look like the type of a result but start a statement. -/
def statementWords : List Text :=
  ["return", "new", "else", "class", "if", "while", "for", "switch", "catch", "throw", "case",
   "fun", "fn", "await", "yield", "do", "try", "delete", "goto", "throws", "interface", "struct",
   "enum", "object", "trait", "record", "typeof", "sizeof", "let", "val", "var"].map String.toList

/-- Words that look like the name of a function but start a statement. -/
def controlWords : List Text :=
  ["if", "while", "for", "switch", "catch", "return", "when", "sizeof"].map String.toList

/-- The text of a group; empty if it took no part in the match. -/
def groupText (t : Text) (found : Pattern.Found) (index : Nat) : Text :=
  match found.group? index with
  | some s => s.text t
  | none => []

/-- The function whose header, up to the opening parenthesis, was found in the
shape with a keyword. -/
def functionOfKeyword? (t : Text) (found : Pattern.Found) : Option (Located FunctionSignature) := do
  let header := found.span
  let (inside, after) ← splitAtClosing? 1 (t.dropBytes header.stop)
  return {
    signature := {
      modifiers := Text.words (groupText t found 1)
      returnType := parseReturnType? after
      name := groupText t found 2
      parameters := parseParameters inside }
    start := header.start
    headerEnd := header.stop + Text.size inside + 1 }

/-- The function whose header, up to the opening parenthesis, was found in the
shape that starts with a type.  Statements and calls have this shape too. -/
def functionOfType? (t : Text) (found : Pattern.Found) : Option (Located FunctionSignature) := do
  let header := found.span
  let type := groupText t found 2
  let name := groupText t found 3
  if statementWords.contains type || controlWords.contains name then none
  let earlier := Text.trimEnd (t.slice 0 header.start)
  if earlier.getLast? = some '=' ∨ earlier.getLast? = some '.' then none
  let (inside, _) ← splitAtClosing? 1 (t.dropBytes header.stop)
  return {
    signature := {
      modifiers := Text.words (groupText t found 1)
      returnType := some type
      name
      parameters := parseParameters inside }
    start := header.start
    headerEnd := header.stop + Text.size inside + 1 }

/-- The one of two declarations that starts first; the first one if they start
together. -/
def earlier {α : Type} : Option (Located α) → Option (Located α) → Option (Located α)
  | none, b => b
  | a, none => a
  | some a, some b => if a.start ≤ b.start then some a else some b

/-- The first function declared in a text. -/
def locateFunction (t : Text) : Option (Located FunctionSignature) :=
  earlier
    (earlier (Pattern.findSome funShape (functionOfKeyword? t) t)
      (Pattern.findSome fnShape (functionOfKeyword? t) t))
    (Pattern.findSome typedShape (functionOfType? t) t)

/-! ## Classes -/

/-- What follows the parameters that a class may have right after its name. -/
def dropConstructor (after : Text) : Text :=
  match Text.trimStart after with
  | '(' :: inside =>
    match splitAtClosing? 1 inside with
    | some (_, rest) => rest
    | none => after
  | _ => after

/-- The class whose header was found. -/
def classOfHeader (t : Text) (found : Pattern.Found) : Located ClassSignature :=
  let header := found.span
  let rest := dropConstructor (t.dropBytes header.stop)
  let (parent, interfaces) :=
    parseSupertypes (Text.trim (Text.before (fun c => c == '{' || c == '\n') rest))
  { signature := {
      modifiers := Text.words (groupText t found 1)
      name := groupText t found 2
      typeParameters := splitTopLevel (groupText t found 3)
      parent
      interfaces }
    start := header.start
    headerEnd := header.stop }

/-- The first class, or other type, declared in a text. -/
def locateClass (t : Text) : Option (Located ClassSignature) :=
  (Pattern.find classShape t).map (classOfHeader t)

end Emend
