import Emend.Text.Basic
/-!
# Numbers in texts

A written whole number is an optional sign and at least one ASCII digit, with
nothing around them.  A number that does not fit the range that is asked for
is refused.
-/

namespace Emend.Text

/-- The value of digits, after digits of the given value. -/
def digitsValue? (value : Nat) : Text → Option Nat
  | [] => some value
  | c :: t =>
    if '0' ≤ c ∧ c ≤ '9' then digitsValue? (10 * value + (c.toNat - '0'.toNat)) t else none

/-- The value of at least one digit. -/
def digits? : Text → Option Nat
  | [] => none
  | c :: t => digitsValue? 0 (c :: t)

/-- The value of a hexadecimal digit. -/
def hexDigit? (c : Char) : Option Nat :=
  if '0' ≤ c ∧ c ≤ '9' then some (c.toNat - '0'.toNat)
  else if 'a' ≤ c ∧ c ≤ 'f' then some (c.toNat - 'a'.toNat + 10)
  else if 'A' ≤ c ∧ c ≤ 'F' then some (c.toNat - 'A'.toNat + 10)
  else none

/-- The greatest count. -/
def maxCount : Nat := 0xFFFFFFFFFFFFFFFF

/-- A count: a plus sign may lead it. -/
def count? (t : Text) : Option Nat := do
  let n ← match t with
    | '+' :: digits => digits? digits
    | digits => digits? digits
  if n ≤ maxCount then some n else none

/-- A number with a sign that fits in 32 bits. -/
def int32? (t : Text) : Option Int := do
  let n : Int ← match t with
    | '+' :: digits => (digits? digits).map Int.ofNat
    | '-' :: digits => (digits? digits).map fun n => -(n : Int)
    | digits => (digits? digits).map Int.ofNat
  if -0x80000000 ≤ n ∧ n ≤ 0x7FFFFFFF then some n else none

/-- The decimal digits of a count. -/
def ofNat (n : Nat) : Text := (toString n).toList

example : count? "+007".toList = some 7 := by decide
example : count? "18446744073709551616".toList = none := by decide
example : int32? "-1".toList = some (-1) := by decide

end Emend.Text
