import Emend.Distance.Edit
/-!
# Similarity

The similarity of two lists is `1 - d / n`, where `d` is their edit distance
and `n` the length of the longer one, so equal lists have similarity one and
lists without anything in common have similarity zero.

A search accepts only scores that reach its threshold, so a distance that
cannot lead to such a score is not computed to its end: the score is then zero.
Scores are doubles, and every comparison with a threshold allows for the
rounding of a few operations on them.
-/

namespace Emend.Distance

variable {α : Type _} [DecidableEq α]

/-- What a score may fall short of the threshold by. -/
def tolerance : Float := 1e-9

/-- Whether a score reaches a threshold. -/
def meets (score threshold : Float) : Bool := score + tolerance ≥ threshold

/-- The count nearest to a number from below, within the range of counts; zero
for a number below zero and for one that is not a number. -/
def floorCount (x : Float) : Nat := x.floor.toUInt64.toNat

/-- The greatest distance at which lists of length up to `n` still reach the
threshold. -/
def bound (threshold : Float) (n : Nat) : Nat :=
  let slack := 1.0 - threshold
  floorCount ((if slack > 0.0 then slack else 0.0) * n.toUInt64.toFloat + tolerance)

/-- The similarity of two lists, or zero if it is too small for the
threshold. -/
def similarity (xs ys : List α) (threshold : Float) : Float :=
  if xs = ys then 1.0
  else
    let n := max xs.length ys.length
    let limit := bound threshold n
    let d := bounded xs ys limit
    if limit < d then 0.0 else 1.0 - d.toUInt64.toFloat / n.toUInt64.toFloat

end Emend.Distance
