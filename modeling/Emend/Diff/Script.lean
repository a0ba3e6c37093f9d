/-!
# Edit scripts

An edit script turns a list of lines into another one: it keeps, removes and
adds runs of lines.
-/

namespace Emend.Diff

/-- What is done with a run of lines. -/
inductive Tag where
  /-- It is in both lists. -/
  | kept
  /-- It is in the old list only. -/
  | removed
  /-- It is in the new list only. -/
  | added
  deriving DecidableEq, Repr

/-- A step of a script. -/
structure Step (α : Type) where
  /-- What is done. -/
  tag : Tag
  /-- The lines with which it is done. -/
  lines : List α
  deriving DecidableEq, Repr

/-- A step, or none if it has no lines. -/
def stepOf {α : Type} (tag : Tag) (lines : List α) : List (Step α) :=
  if lines.isEmpty then [] else [⟨tag, lines⟩]

/-- How many elements two lists have in common at their start. -/
def commonStart {α : Type} [DecidableEq α] : List α → List α → Nat
  | a :: as, b :: bs => if a = b then commonStart as bs + 1 else 0
  | _, _ => 0

/-- How many elements two lists have in common at their end. -/
def commonEnd {α : Type} [DecidableEq α] (as bs : List α) : Nat :=
  commonStart as.reverse bs.reverse

end Emend.Diff
