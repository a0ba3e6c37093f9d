import Emend.Text.Number
/-!
# Reading decimal numbers

A written number is an optional sign and digits, perhaps with a point among,
before or after them and with an exponent of ten.  The double that is read is
the one nearest to the number.  The words for infinity and for what is no
number are read as well, whatever their case.
-/

namespace Emend.Decimal

/-- The number `digits * 10 ^ exponent`. -/
structure Scientific where
  /-- Whether a minus sign leads it. -/
  negative : Bool
  /-- The digits as a whole number. -/
  digits : Nat
  /-- The exponent of ten. -/
  exponent : Int
  deriving DecidableEq, Repr

/-- The double with a sign and the magnitude of a double. -/
def signed (negative : Bool) (x : Float) : Float := if negative then -x else x

/-- The double above all finite ones. -/
def infinity : Float := 1.0 / 0.0

/-- The double that is no number. -/
def notANumber : Float := 0.0 / 0.0

namespace Scientific

/-- The number of decimal digits of a whole number. -/
def width (n : Nat) : Nat := (toString n).length

/-- The nearest double.  Numbers far outside the range of doubles are told
from their width alone. -/
def toFloat (s : Scientific) : Float :=
  let magnitude :=
    if s.digits = 0 then 0.0
    else
      let top := s.exponent + width s.digits
      if top < -400 then 0.0
      else if 400 < top then infinity
      else if s.exponent < 0 then Float.ofScientific s.digits true s.exponent.natAbs
      else Float.ofScientific s.digits false s.exponent.natAbs
  signed s.negative magnitude

end Scientific

/-- The sign that leads a text, and the rest. -/
def splitSign : Text → Bool × Text
  | '-' :: t => (true, t)
  | '+' :: t => (false, t)
  | t => (false, t)

/-- The digits that lead a text, and the rest. -/
def splitDigits (t : Text) : Text × Text := (t.takeWhile Char.isDigit, t.dropWhile Char.isDigit)

/-- The value of an exponent, if the text is one or empty. -/
def exponent? (t : Text) : Option Int :=
  match t with
  | [] => some 0
  | e :: t =>
    if e = 'e' ∨ e = 'E' then
      let (negative, digits) := splitSign t
      (Text.digits? digits).map fun n => if negative then -(n : Int) else n
    else none

/-- The number that a text writes in digits. -/
def scientific? (t : Text) : Option Scientific := do
  let (negative, t) := splitSign t
  let (whole, t) := splitDigits t
  let (places, t) := match t with
    | '.' :: t => splitDigits t
    | t => ([], t)
  let digits ← Text.digits? (whole ++ places)
  let exponent ← exponent? t
  return ⟨negative, digits, exponent - places.length⟩

/-- The double that a text writes. -/
def float? (t : Text) : Option Float :=
  let (negative, word) := splitSign t
  let word := Text.asciiLower word
  if word = "inf".toList ∨ word = "infinity".toList then some (signed negative infinity)
  else if word = "nan".toList then some (signed negative notANumber)
  else (scientific? t).map Scientific.toFloat

example : scientific? "-1.50e3".toList = some ⟨true, 150, 1⟩ := by decide
example : scientific? ".5".toList = some ⟨false, 5, -1⟩ := by decide
example : scientific? ".".toList = none := by decide

end Emend.Decimal
