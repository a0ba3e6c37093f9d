import Emend.Proofs.Distance.Exact
/-!
# The bounded distance is a metric

The rows of a bounded distance belong to the first list and their cells to the second, and rows
are what is given up when they lie above the bound.  Steps know no such order: each can be taken
back by one other (`Step.symm`), and steps to a list and steps from it are steps past it
(`Steps.trans`).

So the distance of two lists is the same from either of them (`distance_comm`), and no detour is
shorter (`distance_triangle`).  To cut distances off at one number keeps both, whatever the
bound (`bounded_metric`).
-/

namespace Emend.Distance

variable {α : Type _}

/-! ## Steps back -/

theorem Step.symm {xs ys : List α} (h : Step xs ys) : Step ys xs := by
  cases h with
  | insert front y rest => exact .delete front y rest
  | delete front x rest => exact .insert front x rest
  | substitute front x y rest => exact .substitute front y x rest

theorem Steps.symm {n : Nat} {xs ys : List α} (h : Steps n xs ys) : Steps n ys xs := by
  induction h with
  | refl xs => exact .refl xs
  | head hstep _ ih => exact ih.tail hstep.symm

/-! ## Distances -/

variable [DecidableEq α]

theorem distance_comm (xs ys : List α) : distance xs ys = distance ys xs :=
  le_antisymm (distance_le_of_steps (steps_distance ys xs).symm)
    (distance_le_of_steps (steps_distance xs ys).symm)

theorem distance_eq_zero_iff {xs ys : List α} : distance xs ys = 0 ↔ xs = ys := by
  constructor
  · exact eq_of_distance_eq_zero
  · rintro rfl
    exact distance_self xs

/-- A way past a third list is no shorter. -/
theorem distance_triangle (xs ys zs : List α) :
    distance xs zs ≤ distance xs ys + distance ys zs :=
  distance_le_of_steps ((steps_distance xs ys).trans (steps_distance ys zs))

/-! ## Distances under a bound -/

theorem above_pos (bound : Nat) : 0 < above bound :=
  Nat.lt_min.2 ⟨Nat.succ_pos bound, by decide⟩

/-- Under every bound, the greatest one included, the bounded distance is the same from either
list, it is zero for equal lists only, and a way past a third list is no shorter. -/
theorem bounded_metric (bound : Nat) :
    (∀ xs ys : List α, bounded xs ys bound = bounded ys xs bound) ∧
    (∀ xs ys : List α, bounded xs ys bound = 0 ↔ xs = ys) ∧
    ∀ xs ys zs : List α, bounded xs zs bound ≤ bounded xs ys bound + bounded ys zs bound := by
  have hpos := above_pos bound
  refine ⟨fun xs ys => ?_, fun xs ys => ?_, fun xs ys zs => ?_⟩
  · rw [bounded_eq, bounded_eq, distance_comm]
  · rw [bounded_eq, ← distance_eq_zero_iff]
    omega
  · have hway := distance_triangle xs ys zs
    simp only [bounded_eq]
    omega

end Emend.Distance
