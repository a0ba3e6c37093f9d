import Mathlib.Order.Bounds.Basic
import Mathlib.Order.MinMax
/-!
# Editing steps

A step inserts one element into a list, deletes one, or puts another in its place (`Step`).
The edit distance of two lists is the least number of steps that lead from one to the other
(`isLeast_distance`).

It is given by a recursion on the first elements (`distance`).  That so many steps are enough
is read off the recursion (`steps_distance`); that none are saved is that one step more or less
at one end changes a distance by one at most (`distance_le_of_step`).
-/

namespace Emend.Distance

variable {α : Type _}

/-! ## Steps -/

/-- One step from a list to another. -/
inductive Step : List α → List α → Prop where
  /-- An element is inserted. -/
  | insert (front : List α) (y : α) (rest : List α) : Step (front ++ rest) (front ++ y :: rest)
  /-- An element is deleted. -/
  | delete (front : List α) (x : α) (rest : List α) : Step (front ++ x :: rest) (front ++ rest)
  /-- An element takes the place of another. -/
  | substitute (front : List α) (x y : α) (rest : List α) :
    Step (front ++ x :: rest) (front ++ y :: rest)

/-- So many steps, one after another, lead from one list to another. -/
inductive Steps : Nat → List α → List α → Prop where
  | refl (xs : List α) : Steps 0 xs xs
  | head {n : Nat} {xs ys zs : List α} : Step xs ys → Steps n ys zs → Steps (n + 1) xs zs

theorem Step.append {xs ys : List α} (h : Step xs ys) (front back : List α) :
    Step (front ++ xs ++ back) (front ++ ys ++ back) := by
  cases h with
  | insert mid y rest =>
      simpa using Step.insert (front ++ mid) y (rest ++ back)
  | delete mid x rest =>
      simpa using Step.delete (front ++ mid) x (rest ++ back)
  | substitute mid x y rest =>
      simpa using Step.substitute (front ++ mid) x y (rest ++ back)

theorem Step.reverse {xs ys : List α} (h : Step xs ys) : Step xs.reverse ys.reverse := by
  cases h with
  | insert front y rest => simpa using Step.insert rest.reverse y front.reverse
  | delete front x rest => simpa using Step.delete rest.reverse x front.reverse
  | substitute front x y rest => simpa using Step.substitute rest.reverse x y front.reverse

/-- A step changes the length by one at most. -/
theorem Step.length_le {xs ys : List α} (h : Step xs ys) :
    xs.length ≤ ys.length + 1 ∧ ys.length ≤ xs.length + 1 := by
  cases h <;> simp only [List.length_append, List.length_cons] <;> omega

namespace Steps

variable {m n : Nat} {xs ys zs : List α}

theorem trans (h : Steps m xs ys) (hrest : Steps n ys zs) : Steps (m + n) xs zs := by
  induction h with
  | refl xs => rwa [Nat.zero_add]
  | @head m xs ys zs hstep _ ih =>
      rw [Nat.add_right_comm]
      exact .head hstep (ih hrest)

theorem tail (h : Steps n xs ys) (hstep : Step ys zs) : Steps (n + 1) xs zs :=
  h.trans (.head hstep (.refl zs))

theorem cons (h : Steps n xs ys) (x : α) : Steps n (x :: xs) (x :: ys) := by
  induction h with
  | refl xs => exact .refl _
  | head hstep _ ih => exact .head (by simpa using hstep.append [x] []) ih

theorem reverse (h : Steps n xs ys) : Steps n xs.reverse ys.reverse := by
  induction h with
  | refl xs => exact .refl _
  | head hstep _ ih => exact .head hstep.reverse ih

theorem length_le (h : Steps n xs ys) :
    xs.length ≤ ys.length + n ∧ ys.length ≤ xs.length + n := by
  induction h with
  | refl xs => simp
  | head hstep _ ih =>
      have := hstep.length_le
      omega

theorem insertAll (ys : List α) : Steps ys.length [] ys := by
  induction ys with
  | nil => exact .refl []
  | cons y ys ih => exact ih.tail (.insert [] y ys)

theorem deleteAll (xs : List α) : Steps xs.length xs [] := by
  induction xs with
  | nil => exact .refl []
  | cons x xs ih => exact .head (.delete [] x xs) ih

end Steps

/-! ## The distance -/

section Distance

variable [DecidableEq α]

/-- The edit distance: the first elements are deleted, inserted, or made equal. -/
def distance : List α → List α → Nat
  | [], ys => ys.length
  | x :: xs, [] => (x :: xs).length
  | x :: xs, y :: ys =>
    min (min (distance xs (y :: ys) + 1) (distance (x :: xs) ys + 1))
      (distance xs ys + if x = y then 0 else 1)
  termination_by xs ys => xs.length + ys.length

@[simp]
theorem distance_nil_left (ys : List α) : distance [] ys = ys.length := by
  rw [distance]

@[simp]
theorem distance_nil_right (xs : List α) : distance xs [] = xs.length := by
  cases xs <;> rw [distance]

theorem distance_cons_cons (x y : α) (xs ys : List α) :
    distance (x :: xs) (y :: ys) =
      min (min (distance xs (y :: ys) + 1) (distance (x :: xs) ys + 1))
        (distance xs ys + if x = y then 0 else 1) := by
  rw [distance]

/-- The distance is that of one of the three ways. -/
theorem distance_cons_cons_cases (x y : α) (xs ys : List α) :
    distance (x :: xs) (y :: ys) = distance xs (y :: ys) + 1 ∨
      distance (x :: xs) (y :: ys) = distance (x :: xs) ys + 1 ∨
      distance (x :: xs) (y :: ys) = distance xs ys + if x = y then 0 else 1 := by
  rw [distance_cons_cons]
  rcases min_choice (min (distance xs (y :: ys) + 1) (distance (x :: xs) ys + 1))
    (distance xs ys + if x = y then 0 else 1) with h | h
  · rw [h]
    exact (min_choice _ _).imp_right .inl
  · exact .inr (.inr h)

/-- As many steps as the distance says are enough. -/
theorem steps_distance (xs ys : List α) : Steps (distance xs ys) xs ys := by
  fun_induction distance xs ys with
  | case1 ys => exact Steps.insertAll ys
  | case2 x xs => exact Steps.deleteAll (x :: xs)
  | case3 x xs y ys hdelete hinsert hboth =>
      rw [← distance_cons_cons]
      rcases distance_cons_cons_cases x y xs ys with h | h | h <;> rw [h]
      · exact .head (.delete [] x xs) hdelete
      · exact hinsert.tail (.insert [] y ys)
      · split
        · next heq =>
          subst heq
          exact hboth.cons x
        · exact .head (.substitute [] x y xs) (hboth.cons y)

theorem distance_self (xs : List α) : distance xs xs = 0 := by
  induction xs with
  | nil => simp
  | cons x xs ih => simp [distance_cons_cons, ih]

theorem eq_of_distance_eq_zero {xs ys : List α} (h : distance xs ys = 0) : xs = ys := by
  have hsteps := steps_distance xs ys
  rw [h] at hsteps
  cases hsteps
  rfl

/-- To put every element in place of another is enough, with what is left over inserted or
deleted. -/
theorem distance_le_max (xs ys : List α) : distance xs ys ≤ max xs.length ys.length := by
  fun_induction distance xs ys with
  | case1 ys => simp
  | case2 x xs => simp
  | case3 x xs y ys _ _ hboth =>
      simp only [List.length_cons]
      split <;> omega

/-! ## No steps are saved -/

theorem distance_cons_right_le (xs : List α) (y : α) (ys : List α) :
    distance xs (y :: ys) ≤ distance xs ys + 1 := by
  cases xs with
  | nil => simp
  | cons x xs =>
      rw [distance_cons_cons]
      omega

theorem distance_cons_left_le (x : α) (xs ys : List α) :
    distance (x :: xs) ys ≤ distance xs ys + 1 := by
  cases ys with
  | nil => simp
  | cons y ys =>
      rw [distance_cons_cons]
      omega

theorem distance_le_cons_left (x : α) (xs ys : List α) :
    distance xs ys ≤ distance (x :: xs) ys + 1 := by
  induction ys with
  | nil => simp; omega
  | cons y ys ih =>
      have := distance_cons_right_le xs y ys
      rw [distance_cons_cons]
      omega

theorem distance_substitute_le (x y : α) (xs zs : List α) :
    distance (x :: xs) zs ≤ distance (y :: xs) zs + 1 := by
  induction zs with
  | nil => simp
  | cons z zs ih =>
      rw [distance_cons_cons, distance_cons_cons]
      split <;> omega

/-- What leads two lists does not set them further apart. -/
theorem distance_append_le {xs ys : List α}
    (h : ∀ zs, distance xs zs ≤ distance ys zs + 1) (front zs : List α) :
    distance (front ++ xs) zs ≤ distance (front ++ ys) zs + 1 := by
  induction front generalizing zs with
  | nil => exact h zs
  | cons c front ih =>
      induction zs with
      | nil =>
          have hlength : xs.length ≤ ys.length + 1 := by simpa using h []
          simp only [distance_nil_right, List.length_append, List.length_cons]
          omega
      | cons z zs ihz =>
          have hdelete := ih (z :: zs)
          have hboth := ih zs
          simp only [List.cons_append, distance_cons_cons] at ihz ⊢
          omega

theorem distance_le_of_step {xs ys : List α} (h : Step xs ys) (zs : List α) :
    distance xs zs ≤ distance ys zs + 1 := by
  cases h with
  | insert front y rest => exact distance_append_le (distance_le_cons_left y rest) front zs
  | delete front x rest => exact distance_append_le (distance_cons_left_le x rest) front zs
  | substitute front x y rest => exact distance_append_le (distance_substitute_le x y rest) front zs

theorem distance_le_of_steps {n : Nat} {xs ys : List α} (h : Steps n xs ys) :
    distance xs ys ≤ n := by
  induction h with
  | refl xs => exact (distance_self xs).le
  | @head n xs ys zs hstep _ ih => exact (distance_le_of_step hstep zs).trans (by omega)

/-- The distance is the least number of steps from one list to the other. -/
theorem isLeast_distance (xs ys : List α) : IsLeast {n | Steps n xs ys} (distance xs ys) :=
  ⟨steps_distance xs ys, fun _ h => distance_le_of_steps h⟩

theorem distance_reverse (xs ys : List α) : distance xs.reverse ys.reverse = distance xs ys := by
  apply le_antisymm
  · exact distance_le_of_steps (steps_distance xs ys).reverse
  · have h := (steps_distance xs.reverse ys.reverse).reverse
    rw [List.reverse_reverse, List.reverse_reverse] at h
    exact distance_le_of_steps h

/-- The lengths of two lists are no further apart than the lists. -/
theorem length_le_distance (xs ys : List α) :
    xs.length ≤ ys.length + distance xs ys ∧ ys.length ≤ xs.length + distance xs ys :=
  (steps_distance xs ys).length_le

end Distance

end Emend.Distance
