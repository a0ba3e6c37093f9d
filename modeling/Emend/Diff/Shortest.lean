import Emend.Diff.Script
/-!
# Short scripts

A shortest edit script is a path through a grid, from the corner before both
lists to the corner after them: a step to the right removes a line, a step down
adds one, and a diagonal step keeps a line that both lists have.  Diagonal
number `k` holds the points whose column is `k` more than their row.

The path is sought from both corners at once.  After `d` rounds, each diagonal
from `d` down to `-d` in steps of two has the furthest point that can be reached
from the corner with `d` steps that are not diagonal; a `Frontier` lists the
columns of these points.  Where the two searches meet, the lists are cut in two,
and each half is treated in the same way.
-/

namespace Emend.Diff

variable {α : Type} [DecidableEq α]

/-- The furthest columns, from diagonal `d` down to diagonal `-d`. -/
abbrev Frontier := List Nat

/-- The columns after one more step that is not diagonal, given those from the
second diagonal on; `last` is the column on the first. -/
def inward (last : Nat) : Frontier → Frontier
  | [] => [last]
  | x :: rest => (if x < last then last else x + 1) :: inward x rest

/-- The columns at which the diagonal steps of the next round start. -/
def outward : Frontier → Frontier
  | [] => [0]
  | x :: rest => (x + 1) :: inward x rest

/-- The column after all diagonal steps from column `x` of diagonal `k`. -/
def slide (old new : List α) (k : Int) (x : Nat) : Nat :=
  let y : Int := x - k
  if x < old.length ∧ 0 ≤ y ∧ y < new.length then
    x + commonStart (old.drop x) (new.drop y.toNat)
  else x

/-- The columns of a round, with the ones at which the diagonal steps start. -/
def reach (old new : List α) (k : Int) : Frontier → List (Nat × Nat)
  | [] => []
  | x :: rest => (x, slide old new k x) :: reach old new (k - 2) rest

/-- The column on diagonal `k` of round `d`. -/
def column (frontier : Frontier) (d k : Int) : Nat := frontier.getD ((d - k) / 2).toNat 0

/-- The first point of a round that meets the other search.  The point is on
diagonal `k`; `delta` is the diagonal of the far corner, `n` the length of the
old list, and `limit` and `other` are the round and the columns of the other
search. -/
def meeting (n : Nat) (delta limit : Int) (other : Frontier) (k : Int) :
    List (Nat × Nat) → Option (Int × Nat × Nat)
  | [] => none
  | (start, x) :: rest =>
    if (k - delta).natAbs ≤ limit ∧ n ≤ x + column other limit (delta - k) then some (k, start, x)
    else meeting n delta limit other (k - 2) rest

/-- The point at which the lists are cut in two, sought in rounds from `d` on. -/
def middle (old new : List α) (d : Nat) (forward backward : Frontier) : Nat → Option (Nat × Nat)
  | 0 => none
  | rounds + 1 =>
    let n := old.length
    let delta : Int := n - new.length
    let odd := delta % 2 = 1
    let ahead := reach old new d (outward forward)
    let meets := if odd then meeting n delta (d - 1) backward d ahead else none
    match meets with
    | some (k, start, _) => some (start, (start - k).toNat)
    | none =>
      let forward := ahead.map Prod.snd
      let behind := reach old.reverse new.reverse d (outward backward)
      let meets := if odd then none else meeting n delta d forward d behind
      match meets with
      | some (k, _, x) => some (n - x, (new.length - (x - k)).toNat)
      | none => middle old new (d + 1) forward (behind.map Prod.snd) rounds

/-- A script between two lists; `fuel` bounds how often they are cut. -/
def scriptWith : (fuel : Nat) → (old new : List α) → List (Step α)
  | 0, old, new => stepOf .removed old ++ stepOf .added new
  | fuel + 1, old, new =>
    let start := commonStart old new
    let kept := old.take start
    let old := old.drop start
    let new := new.drop start
    let stop := commonEnd old new
    let keptLast := old.drop (old.length - stop)
    let old := old.take (old.length - stop)
    let new := new.take (new.length - stop)
    let inner :=
      if old.isEmpty || new.isEmpty then stepOf .removed old ++ stepOf .added new
      else match middle old new 0 [] [] ((old.length + new.length + 1) / 2 + 1) with
        | some (x, y) =>
          scriptWith fuel (old.take x) (new.take y) ++ scriptWith fuel (old.drop x) (new.drop y)
        | none => stepOf .removed old ++ stepOf .added new
    stepOf .kept kept ++ inner ++ stepOf .kept keptLast

/-- A short script between two lists. -/
def script (old new : List α) : List (Step α) := scriptWith (old.length + new.length) old new

example : script [1, 2, 3] [1, 3] = [⟨.kept, [1]⟩, ⟨.removed, [2]⟩, ⟨.kept, [3]⟩] := by decide

end Emend.Diff
