import Emend.Text.Number
/-!
# Shortest decimals

A double is written with the fewest digits that read back as the same double,
and of several such numbers the nearest; a tie goes away from zero.

A finite double is `significand * 2 ^ exponent`, and the numbers that read back
as it lie around it, half way to its neighbours on either side.  The grids of
the multiples of a power of ten are tried from the coarsest one on: the first
grid with a point in that interval has the shortest numbers.  If a grid has a
point there, one of the two points next to the double itself is one.
-/

namespace Emend.Decimal

/-- The numbers that read back as a positive double, and the double itself, all
over one denominator. -/
structure Interval where
  /-- The least number. -/
  low : Nat
  /-- The double. -/
  value : Nat
  /-- The greatest number. -/
  high : Nat
  /-- What all three are divided by. -/
  den : Nat
  /-- Whether the ends belong to the interval. -/
  closed : Bool

namespace Interval

/-- The interval of `significand * 2 ^ (exponent - 2)` times four.  Below the
least significand of a binade the neighbour is half as far away. -/
def ofBinary (significand : Nat) (exponent : Int) (narrow : Bool) : Interval :=
  let scale := exponent - 2
  let up := Nat.pow 2 scale.toNat
  { low := (4 * significand - (if narrow then 1 else 2)) * up
    value := 4 * significand * up
    high := (4 * significand + 2) * up
    den := Nat.pow 2 (-scale).toNat
    closed := significand % 2 == 0 }

/-- Whether `digits * 10 ^ exponent` lies in the interval. -/
def holds (i : Interval) (digits : Nat) (exponent : Int) : Bool :=
  let x := digits * Nat.pow 10 exponent.toNat * i.den
  let by10 := Nat.pow 10 (-exponent).toNat
  if i.closed then i.low * by10 ≤ x && x ≤ i.high * by10
  else i.low * by10 < x && x < i.high * by10

/-- The point of the interval on the grid of the multiples of `10 ^ exponent`
that is nearest to the double, if there is one; of two that are equally near the
greater one. -/
def pointOn (i : Interval) (exponent : Int) : Option Nat :=
  let num := i.value * Nat.pow 10 (-exponent).toNat
  let den := i.den * Nat.pow 10 exponent.toNat
  let below := num / den
  let down := 0 < below && i.holds below exponent
  let up := i.holds (below + 1) exponent
  if down && (!up || 2 * (num % den) < den) then some below
  else if up then some (below + 1)
  else none

/-- The first grid with a point, from the one of `10 ^ exponent` on through so
many finer ones. -/
def firstPoint (i : Interval) (exponent : Int) : Nat → Nat × Int
  | 0 => (0, 0)
  | finer + 1 =>
    match i.pointOn exponent with
    | some digits => (digits, exponent)
    | none => i.firstPoint (exponent - 1) finer

end Interval

/-- A number without an exponent: its digits, with the point or the zeros that
the exponent asks for. -/
def positional (digits : Nat) (exponent : Int) : Text :=
  let written := Text.ofNat digits
  if 0 ≤ exponent then written ++ List.replicate exponent.toNat '0'
  else
    let places := (-exponent).toNat
    if places < written.length then
      written.take (written.length - places) ++ '.' :: written.drop (written.length - places)
    else '0' :: '.' :: (List.replicate (places - written.length) '0' ++ written)

/-- The value of the bit that holds the sign of a double. -/
def signBit : Nat := 0x8000000000000000

/-- The value of the bit above the fraction of a double, which a significand
has but the bits of the double do not hold. -/
def hiddenBit : Nat := 0x10000000000000

/-- The shortest text of a double. -/
def shortest (x : Float) : Text :=
  let bits := x.toBits.toNat
  let sign : Text := if signBit ≤ bits then ['-'] else []
  let biased : Nat := bits % signBit / hiddenBit
  let fraction := bits % hiddenBit
  if biased = 2047 then
    if fraction = 0 then sign ++ ['i', 'n', 'f'] else ['N', 'a', 'N']
  else if biased = 0 ∧ fraction = 0 then sign ++ ['0']
  else
    let interval :=
      if biased = 0 then Interval.ofBinary fraction (-1074) false
      else
        Interval.ofBinary (hiddenBit + fraction) ((biased : Int) - 1075)
          (fraction == 0 && 1 < biased)
    let (digits, exponent) := interval.firstPoint 310 640
    sign ++ positional digits exponent

example : positional 85 (-2) = "0.85".toList := by decide
example : positional 15 (-1) = "1.5".toList := by decide
example : positional 1 3 = "1000".toList := by decide

end Emend.Decimal
