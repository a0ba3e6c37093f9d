import Emend.Match.Options
import Emend.Text.Blank
/-!
# Signatures

What a declaration says about itself: its modifiers, its name, and the types
around them.  Two signatures are compared part by part, and only in the parts
that count.

Types are compared without blanks and without the mark of types that may be
null.  A function that names no result is one whose result is the unit type,
under any of its names.
-/

namespace Emend

/-- A parameter of a function. -/
structure Parameter where
  /-- Its name; empty if only a type is given. -/
  name : Text
  /-- Its type. -/
  type : Text
  deriving DecidableEq, Repr

/-- The signature of a function. -/
structure FunctionSignature where
  /-- The modifiers, in order. -/
  modifiers : List Text
  /-- The type of the result, if one is named. -/
  returnType : Option Text
  /-- The name. -/
  name : Text
  /-- The parameters, in order. -/
  parameters : List Parameter
  deriving DecidableEq, Repr

/-- The signature of a class, or of another declared type. -/
structure ClassSignature where
  /-- The modifiers, in order. -/
  modifiers : List Text
  /-- The name. -/
  name : Text
  /-- The type parameters, in order. -/
  typeParameters : List Text
  /-- The type that is extended. -/
  parent : Option Text
  /-- The interfaces, in order. -/
  interfaces : List Text
  deriving DecidableEq, Repr

/-- A declaration found in a text. -/
structure Located (α : Type) where
  /-- What was found. -/
  signature : α
  /-- The offset at which the header starts, with its modifiers. -/
  start : Nat
  /-- The offset just past the header. -/
  headerEnd : Nat
  deriving Repr

/-- A type without its blanks and question marks. -/
def normalizeType (t : Text) : Text := (Text.dropBlanks t).filter fun c => c ≠ '?'

/-- The unit type. -/
def unitType : Text := "Unit".toList

/-- The type of a result in the form in which results are compared. -/
def normalizeReturnType (t : Option Text) : Text :=
  match t.map normalizeType with
  | none => unitType
  | some t => if t = [] ∨ t = "void".toList ∨ t = "()".toList then unitType else t

/-- Whether two lists hold the same texts, whatever their order. -/
def sameMembers (a b : List Text) : Bool := a.all b.contains && b.all a.contains

/-- Whether two lists of parameters agree in the parts that count. -/
def sameParameters (checks : SignatureChecks) (a b : List Parameter) : Bool :=
  a.length == b.length && (a.zip b).all fun (p, q) =>
    (!checks.parameterTypes || normalizeType p.type == normalizeType q.type) &&
      (!checks.parameterNames || p.name == q.name)

namespace FunctionSignature

/-- Whether two functions agree in the parts that count. -/
def agrees (checks : SignatureChecks) (a b : FunctionSignature) : Bool :=
  (!checks.functionName || a.name == b.name) &&
  (!checks.returnType || normalizeReturnType a.returnType == normalizeReturnType b.returnType) &&
  (!(checks.parameterTypes || checks.parameterNames) ||
    sameParameters checks a.parameters b.parameters) &&
  (!checks.modifiers || sameMembers a.modifiers b.modifiers)

end FunctionSignature

namespace ClassSignature

/-- Whether two classes agree in the parts that count. -/
def agrees (checks : SignatureChecks) (a b : ClassSignature) : Bool :=
  (!checks.className || a.name == b.name) &&
  (!checks.modifiers || sameMembers a.modifiers b.modifiers)

end ClassSignature

end Emend
