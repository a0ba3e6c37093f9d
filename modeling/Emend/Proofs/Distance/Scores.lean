import Mathlib.Data.Prod.Lex
import Emend.Distance.Similarity
/-!
# Scores are ordered

A double is given a rank by its sign, its exponent and its mantissa, or it is no number and has
none (`rank?`).  Two doubles compare as their ranks do (`Score.lt_iff`, `Score.le_iff`), and what
is no number compares with nothing.  So `<` and `≤` are the two sides of one order among numbers
(`Score.not_lt`), in which different zeros stand at one place.

A score that reaches some threshold is a number (`Score.number_of_meets`), so the scores that a
search accepts can all be compared.
-/

namespace Emend.Distance

open Float.Model (UnpackedFloat)

/-! ## Ranks -/

/-- The place of a number among the doubles: below zero and above it by the exponent, and then by
the mantissa. -/
def rank? : UnpackedFloat → Option (ℤ ×ₗ ℤ ×ₗ ℤ)
  | .notANumber => none
  | .infinity .positive => some (toLex (2, toLex (0, 0)))
  | .infinity .negative => some (toLex (-2, toLex (0, 0)))
  | .zero _ => some (toLex (0, toLex (0, 0)))
  | .finite .positive m e _ => some (toLex (1, toLex (e, (m : ℤ))))
  | .finite .negative m e _ => some (toLex (-1, toLex (-e, -(m : ℤ))))

theorem compare_neg (a b : ℤ) : compare (-a) (-b) = (compare a b).swap := by
  rcases lt_trichotomy a b with h | h | h
  · rw [compare_lt_iff_lt.2 h, compare_gt_iff_gt.2 (Int.neg_lt_neg h)]
    rfl
  · rw [h, compare_eq_iff_eq.2 rfl, compare_eq_iff_eq.2 rfl]
    rfl
  · rw [compare_gt_iff_gt.2 h, compare_lt_iff_lt.2 (Int.neg_lt_neg h)]
    rfl

theorem compare_cast (m n : ℕ) : compare (m : ℤ) (n : ℤ) = compare m n := by
  rcases lt_trichotomy m n with h | h | h
  · rw [compare_lt_iff_lt.2 h, compare_lt_iff_lt.2 (Int.ofNat_lt.2 h)]
  · rw [h, compare_eq_iff_eq.2 rfl, compare_eq_iff_eq.2 rfl]
  · rw [compare_gt_iff_gt.2 h, compare_gt_iff_gt.2 (Int.ofNat_lt.2 h)]

/-- Doubles compare as their ranks do. -/
theorem compare_eq (a b : UnpackedFloat) :
    a.compare b = (rank? a).bind fun p => (rank? b).map fun q => compare p q := by
  rcases a with (_ | _) | _ | _ | ⟨_ | _, m₁, e₁, h₁⟩ <;>
    rcases b with (_ | _) | _ | _ | ⟨_ | _, m₂, e₂, h₂⟩ <;> try rfl
  -- Only finite numbers of one sign are left.
  · change some ((compare e₁ e₂).then (compare m₁ m₂)).swap =
      some (compare (toLex (-1, toLex (-e₁, -(m₁ : ℤ)))) (toLex (-1, toLex (-e₂, -(m₂ : ℤ)))))
    simp [Prod.Lex.compare_def, compareLex, compareOn, compare_neg, compare_cast,
      Ordering.swap_then]
  · change some ((compare e₁ e₂).then (compare m₁ m₂)) =
      some (compare (toLex (1, toLex (e₁, (m₁ : ℤ)))) (toLex (1, toLex (e₂, (m₂ : ℤ)))))
    simp [Prod.Lex.compare_def, compareLex, compareOn, compare_cast]

theorem add_notANumber (spec : Float.Model.Format) (b : UnpackedFloat) :
    UnpackedFloat.add spec .notANumber b = .notANumber := by
  cases b <;> rfl

theorem rank?_eq_none {a : UnpackedFloat} (h : rank? a = none) : a = .notANumber := by
  rcases a with (_ | _) | _ | _ | ⟨_ | _, m, e, hm⟩ <;> cases h
  rfl

end Distance

namespace Score

open Distance (rank? meets tolerance)

variable {x y z : Float}

/-! ## The order of numbers -/

/-- The double is a number. -/
def Number (x : Float) : Prop := ∃ p, rank? x.toModel.unpack = some p

theorem lt_iff : x < y ↔
    ∃ p q, rank? x.toModel.unpack = some p ∧ rank? y.toModel.unpack = some q ∧ p < q := by
  have h : x < y ↔ x.toModel.unpack.compare y.toModel.unpack = some .lt := by
    change decide (x.toModel < y.toModel) = true ↔ _
    rw [decide_eq_true_iff]
    exact beq_iff_eq
  rw [h, Distance.compare_eq]
  cases rank? x.toModel.unpack <;> cases rank? y.toModel.unpack <;> simp [compare_lt_iff_lt]

theorem le_iff : x ≤ y ↔
    ∃ p q, rank? x.toModel.unpack = some p ∧ rank? y.toModel.unpack = some q ∧ p ≤ q := by
  have h : x ≤ y ↔ (x.toModel.unpack.compare y.toModel.unpack).any (·.isLE) = true := by
    change decide (x.toModel ≤ y.toModel) = true ↔ _
    rw [decide_eq_true_iff]
    exact Iff.rfl
  rw [h, Distance.compare_eq]
  cases rank? x.toModel.unpack <;> cases rank? y.toModel.unpack <;>
    simp [Ordering.isLE_iff_ne_gt, compare_le_iff_le]

theorem lt_iff_of_rank {p q : ℤ ×ₗ ℤ ×ₗ ℤ} (hp : rank? x.toModel.unpack = some p)
    (hq : rank? y.toModel.unpack = some q) : x < y ↔ p < q := by
  rw [lt_iff, hp, hq]
  simp

theorem le_iff_of_rank {p q : ℤ ×ₗ ℤ ×ₗ ℤ} (hp : rank? x.toModel.unpack = some p)
    (hq : rank? y.toModel.unpack = some q) : x ≤ y ↔ p ≤ q := by
  rw [le_iff, hp, hq]
  simp

protected theorem le_refl (hx : Number x) : x ≤ x := by
  obtain ⟨p, hp⟩ := hx
  exact (le_iff_of_rank hp hp).2 le_rfl

protected theorem le_of_lt (h : x < y) : x ≤ y := by
  obtain ⟨p, q, hp, hq, hlt⟩ := lt_iff.1 h
  exact le_iff.2 ⟨p, q, hp, hq, hlt.le⟩

protected theorem le_trans (hxy : x ≤ y) (hyz : y ≤ z) : x ≤ z := by
  obtain ⟨p, q, hp, hq, hpq⟩ := le_iff.1 hxy
  obtain ⟨q', r, hq', hr, hqr⟩ := le_iff.1 hyz
  cases hq.symm.trans hq'
  exact le_iff.2 ⟨p, r, hp, hr, hpq.trans hqr⟩

protected theorem lt_of_le_of_lt (hxy : x ≤ y) (hyz : y < z) : x < z := by
  obtain ⟨p, q, hp, hq, hpq⟩ := le_iff.1 hxy
  obtain ⟨q', r, hq', hr, hqr⟩ := lt_iff.1 hyz
  cases hq.symm.trans hq'
  exact lt_iff.2 ⟨p, r, hp, hr, hpq.trans_lt hqr⟩

/-- Of two numbers one is less than the other or it is not. -/
protected theorem not_lt (hx : Number x) (hy : Number y) : ¬ x < y ↔ y ≤ x := by
  obtain ⟨p, hp⟩ := hx
  obtain ⟨q, hq⟩ := hy
  rw [lt_iff_of_rank hp hq, le_iff_of_rank hq hp, not_lt]

protected theorem not_le_of_lt (h : x < y) : ¬ y ≤ x := by
  obtain ⟨p, q, hp, hq, hlt⟩ := lt_iff.1 h
  rw [← Score.not_lt ⟨p, hp⟩ ⟨q, hq⟩]
  exact not_not_intro h

/-! ## Scores that reach a threshold -/

/-- What is no number stays so when something is added. -/
theorem number_of_add (h : Number (x + y)) : Number x := by
  cases hx : rank? x.toModel.unpack with
  | some p => exact ⟨p, hx⟩
  | none =>
      obtain ⟨p, hp⟩ := h
      change rank? (Float.Model.pack (.add .binary64 x.toModel.unpack _)).unpack = _ at hp
      rw [Distance.rank?_eq_none hx, Distance.add_notANumber] at hp
      have hnone : rank? (Float.Model.pack .notANumber).unpack = none := rfl
      rw [hnone] at hp
      cases hp

theorem number_of_meets {score threshold : Float} (h : meets score threshold = true) :
    Number score := by
  obtain ⟨-, q, -, hq, -⟩ := le_iff.1 (of_decide_eq_true h)
  exact number_of_add ⟨q, hq⟩

theorem rank?_one : rank? (1.0 : Float).toModel.unpack =
    some (toLex (1, toLex (-52, 4503599627370496))) := by
  decide +kernel

theorem number_one : Number 1.0 := ⟨_, rank?_one⟩

/-- A perfect score reaches every threshold below one. -/
theorem meets_one {threshold : Float} (h : threshold < 1.0) : meets 1.0 threshold = true := by
  have hone : (1.0 : Float) ≤ 1.0 + tolerance := by decide +kernel
  exact decide_eq_true (Score.le_trans (Score.le_of_lt h) hone)

end Score

end Emend
