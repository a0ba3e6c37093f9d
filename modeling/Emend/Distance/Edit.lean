/-!
# Bounded edit distance

The edit distance of two lists is the least number of insertions, deletions
and substitutions of one element that turn one into the other.  It is computed
row by row: the row of a leading part `xs` of the first list holds the
distances of `xs` to every leading part of the second.

Callers that only care about small distances give a bound.  As soon as a whole
row lies above it the answer is known to, and is reported as one more than the
bound.
-/

namespace Emend.Distance

variable {α : Type _} [DecidableEq α]

/-- The greatest bound and the greatest answer. -/
def maxCount : Nat := 0xFFFFFFFFFFFFFFFF

/-- What is reported for a distance above the bound. -/
def above (bound : Nat) : Nat := min (bound + 1) maxCount

/-- The row of the empty list: the distances to the leading parts of `ys`. -/
def firstRow (ys : List α) : List Nat := List.range (ys.length + 1)

/-- The cells of the next row after its first one, `left`.  The row above is
`diagonal` and then `above`. -/
def cellsAfter (x : α) (left diagonal : Nat) : List α → List Nat → List Nat
  | y :: ys, up :: rest =>
    let cell := min (min (up + 1) (left + 1)) (diagonal + if x = y then 0 else 1)
    cell :: cellsAfter x cell up ys rest
  | _, _ => []

/-- The row of `xs ++ [x]`, given the one of `xs`. -/
def nextRow (x : α) (ys : List α) : List Nat → List Nat
  | [] => []
  | first :: rest => (first + 1) :: cellsAfter x (first + 1) first ys rest

/-- Whether every cell of a row lies above the bound. -/
def exceeds (bound : Nat) (row : List Nat) : Bool := row.all fun cell => bound < cell

/-- The row of the whole first list, unless some row exceeds the bound. -/
def lastRow? (bound : Nat) (ys : List α) : List α → List Nat → Option (List Nat)
  | [], row => some row
  | x :: xs, row =>
    let next := nextRow x ys row
    if exceeds bound next then none else lastRow? bound ys xs next

/-- The edit distance of two lists if it is at most `bound`, and one more than
`bound` otherwise. -/
def bounded (xs ys : List α) (bound : Nat) : Nat :=
  if bound < (xs.length - ys.length) + (ys.length - xs.length) then above bound
  else if xs.isEmpty || ys.isEmpty then min (max xs.length ys.length) (above bound)
  else match lastRow? bound ys xs (firstRow ys) with
    | none => above bound
    | some row => min (row.getLastD 0) (above bound)

example : bounded "kitten".toList "sitting".toList 10 = 3 := by decide
example : bounded "kitten".toList "sitting".toList 1 = 2 := by decide
example : bounded "abc".toList "xyz".toList 0 = 1 := by decide

end Emend.Distance
