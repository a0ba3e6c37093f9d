import Emend.Distance.Edit
import Emend.Proofs.Distance.Steps
/-!
# The bounded distance is exact

A row holds the distances of one leading part of the first list to those of the second.
Leading parts grow at their ends and the distance recurs on first elements, so both are taken
backwards here, which leaves their distance as it is (`distance_reverse`): the row of `ps` goes
over the endings of `ys` reversed (`cells`).

* A row is made of the one above (`nextRow_eq`), so the last one ends in the distance.
* Some cell of a row lies below whatever distance comes of it (`exists_cell_le`), so a row above
  the bound tells that the distance is.
* The lengths of two lists differ by their distance at most, so they may tell it too.
-/

namespace Emend.Distance

variable {α : Type _} [DecidableEq α]

/-! ## Rows -/

/-- The distances of `ps` to `qs`, and to `qs` with one element of `ys` after another put in
front of it. -/
def cells (ps : List α) : (qs ys : List α) → List Nat
  | qs, [] => [distance ps qs]
  | qs, y :: ys => distance ps qs :: cells ps (y :: qs) ys

theorem cells_eq_cons (ps qs ys : List α) :
    cells ps qs ys = distance ps qs :: (cells ps qs ys).tail := by
  cases ys <;> rfl

theorem firstRow_eq (ys : List α) : firstRow ys = cells [] [] ys := by
  have hrange : ∀ qs : List α, cells [] qs ys = List.range' qs.length (ys.length + 1) := by
    induction ys with
    | nil =>
        intro qs
        simp [cells, List.range'_succ]
    | cons y ys ih =>
        intro qs
        rw [cells, ih (y :: qs), distance_nil_left, List.length_cons, List.length_cons]
        exact List.range'_succ.symm
  rw [firstRow, List.range_eq_range', hrange, List.length_nil]

theorem cellsAfter_eq (x : α) (ps qs ys : List α) :
    cellsAfter x (distance (x :: ps) qs) (distance ps qs) ys (cells ps qs ys).tail =
      (cells (x :: ps) qs ys).tail := by
  induction ys generalizing qs with
  | nil => rfl
  | cons y ys ih =>
      simp only [cells, List.tail_cons]
      rw [cells_eq_cons ps, cells_eq_cons (x :: ps), cellsAfter]
      simp only [← distance_cons_cons, ih]

/-- The row of one element more is made of the row above. -/
theorem nextRow_eq (x : α) (ps ys : List α) :
    nextRow x ys (cells ps [] ys) = cells (x :: ps) [] ys := by
  have hfirst : distance ps [] + 1 = distance (x :: ps) [] := by simp
  rw [cells_eq_cons, nextRow, hfirst, cellsAfter_eq, ← cells_eq_cons]

theorem getLastD_cells (ps qs ys : List α) :
    (cells ps qs ys).getLastD 0 = distance ps (ys.reverse ++ qs) := by
  induction ys generalizing qs with
  | nil => rfl
  | cons y ys ih =>
      have hlast : (cells ps qs (y :: ys)).getLastD 0 = (cells ps (y :: qs) ys).getLastD 0 := by
        rw [cells, cells_eq_cons]
        rfl
      rw [hlast, ih, List.reverse_cons, List.append_assoc]
      rfl

theorem mem_cells (ps qs front back : List α) :
    distance ps (front.reverse ++ qs) ∈ cells ps qs (front ++ back) := by
  induction front generalizing qs with
  | nil =>
      rw [List.reverse_nil, List.nil_append, List.nil_append, cells_eq_cons]
      exact List.mem_cons_self
  | cons y front ih =>
      rw [List.reverse_cons, List.append_assoc]
      exact List.mem_cons_of_mem _ (ih (y :: qs))

/-! ## Rows above the bound -/

/-- Elements in front of a list do not bring it closer than it is to some ending. -/
theorem exists_suffix_le (more ps zs : List α) :
    ∃ part, part <:+ zs ∧ distance ps part ≤ distance (more ++ ps) zs := by
  induction more generalizing zs with
  | nil => exact ⟨zs, List.suffix_refl zs, le_rfl⟩
  | cons x more ih =>
      induction zs with
      | nil =>
          refine ⟨[], List.suffix_refl [], ?_⟩
          simp only [distance_nil_right, List.cons_append, List.length_cons, List.length_append]
          omega
      | cons z zs ihz =>
          -- The least of the three ways has a part for which it is not less.
          obtain ⟨deleted, hdeleted, hdelete⟩ := ih (z :: zs)
          obtain ⟨inserted, hinserted, hinsert⟩ := ihz
          obtain ⟨both, hboth, hdiagonal⟩ := ih zs
          rw [List.cons_append] at hinsert ⊢
          rcases distance_cons_cons_cases x z (more ++ ps) zs with h | h | h <;> rw [h]
          · exact ⟨deleted, hdeleted, by omega⟩
          · exact ⟨inserted, hinserted.trans (List.suffix_cons z zs), by omega⟩
          · exact ⟨both, hboth.trans (List.suffix_cons z zs), by omega⟩

/-- Some cell of a row is no greater than the distance that comes of it in the end. -/
theorem exists_cell_le (more ps ys : List α) :
    ∃ cell ∈ cells ps [] ys, cell ≤ distance (more ++ ps) ys.reverse := by
  obtain ⟨part, ⟨back, hback⟩, hle⟩ := exists_suffix_le more ps ys.reverse
  have hys : ys = part.reverse ++ back.reverse := by
    rw [← List.reverse_append, hback, List.reverse_reverse]
  refine ⟨distance ps part, ?_, hle⟩
  have hmem := mem_cells ps [] part.reverse back.reverse
  rwa [List.reverse_reverse, List.append_nil, ← hys] at hmem

theorem lt_of_exceeds {bound : Nat} {ps ys : List α} (h : exceeds bound (cells ps [] ys))
    (more : List α) : bound < distance (more ++ ps) ys.reverse := by
  obtain ⟨cell, hcell, hle⟩ := exists_cell_le more ps ys
  exact (of_decide_eq_true (List.all_eq_true.1 h cell hcell)).trans_le hle

/-- The rows lead to that of the whole list, or the distance lies above the bound. -/
theorem lastRow?_eq (bound : Nat) (xs ys ps : List α) :
    lastRow? bound ys xs (cells ps [] ys) = some (cells (xs.reverse ++ ps) [] ys) ∨
      lastRow? bound ys xs (cells ps [] ys) = none ∧
        bound < distance (xs.reverse ++ ps) ys.reverse := by
  induction xs generalizing ps with
  | nil => exact .inl rfl
  | cons x xs ih =>
      simp only [lastRow?, nextRow_eq, List.reverse_cons, List.append_assoc,
        List.singleton_append]
      split
      · next h => exact .inr ⟨rfl, lt_of_exceeds h xs.reverse⟩
      · exact ih (x :: ps)

/-! ## The bounded distance -/

theorem min_above {bound d : Nat} (h : bound < d) : min d (above bound) = above bound :=
  min_eq_right ((Nat.min_le_left _ _).trans h)

theorem bounded_eq (xs ys : List α) (bound : Nat) :
    bounded xs ys bound = min (distance xs ys) (above bound) := by
  unfold bounded
  split
  · next hlengths =>
    have hle := length_le_distance xs ys
    exact (min_above (by omega)).symm
  · split
    · next hempty =>
      rw [Bool.or_eq_true, List.isEmpty_iff, List.isEmpty_iff] at hempty
      rcases hempty with rfl | rfl <;> simp
    · have hrow := lastRow?_eq bound xs ys []
      rw [← firstRow_eq, List.append_nil, distance_reverse] at hrow
      rcases hrow with hrow | ⟨hrow, habove⟩ <;> simp only [hrow]
      · rw [getLastD_cells, List.append_nil, distance_reverse]
      · exact (min_above habove).symm

/-- The bounded distance is the least number of steps that lead from one list to the other, or
one more than the bound if this is less; one more than the greatest count is that count. -/
theorem bounded_exact (xs ys : List α) (bound : Nat) :
    ∃ d, IsLeast {n | Steps n xs ys} d ∧
      bounded xs ys bound = min d (min (bound + 1) maxCount) :=
  ⟨distance xs ys, isLeast_distance xs ys, bounded_eq xs ys bound⟩

end Emend.Distance
