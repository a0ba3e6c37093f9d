import Mathlib
import Emend.Distance.Similarity
/-!
# Rounding

The sums, products and quotients of doubles are the exact ones, rounded to a mantissa of 53 bits.
All that is used of rounding is that a number stays on its side of every number that has such a
mantissa already (`RoundsTo`): the order of two numbers may get lost, but not that of a number and
one that needs no rounding.

The model rounds by dropping bits and keeping two of them, of which the second one tells whether
there is anything behind the first (`StandsFor`).  What is kept tells the side of a number
(`StandsFor.rounded`), so rounding keeps to it (`roundWithAccuracy_eq`, `round_eq`).

Numbers near the ends of what doubles can be are left out (`Moderate`).
-/

namespace Emend.Rounding

open Float.Model (Format totalExponent)
open Float.Model.UnpackedFloat

/-! ## Mantissas with two bits more -/

/-- The mantissa with its round bit. -/
def half (em : ExtendedMantissa) : ℕ := 2 * em.mantissa + em.roundBit.toNat

/-- A mantissa with its two further bits stands for a number: all that is known of what comes after
the round bit is whether it is nothing. -/
def StandsFor (em : ExtendedMantissa) (q : ℚ) : Prop :=
  if em.stickyBit then (half em : ℚ) < 2 * q ∧ 2 * q < half em + 1 else 2 * q = half em

theorem half_shiftRightOne (em : ExtendedMantissa) : half em.shiftRightOne = em.mantissa := by
  rcases Nat.mod_two_eq_zero_or_one em.mantissa with h | h <;>
    simp only [half, ExtendedMantissa.shiftRightOne, h]
  · exact Nat.mul_div_cancel' (Nat.dvd_of_mod_eq_zero h)
  · exact Nat.two_mul_div_two_add_one_of_odd (Nat.odd_iff.2 h)

theorem StandsFor.mantissa_le {em : ExtendedMantissa} {q : ℚ} (h : StandsFor em q) :
    (em.mantissa : ℚ) ≤ q ∧ q < em.mantissa + 1 := by
  obtain ⟨m, r, s⟩ := em
  cases r <;> cases s <;> simp [StandsFor, half] at h ⊢ <;> constructor <;> linarith

theorem StandsFor.shiftRightOne {em : ExtendedMantissa} {q : ℚ} (h : StandsFor em q) :
    StandsFor em.shiftRightOne (q / 2) := by
  rw [StandsFor, half_shiftRightOne]
  obtain ⟨m, r, s⟩ := em
  cases r <;> cases s <;> simp [StandsFor, half, ExtendedMantissa.shiftRightOne] at h ⊢
  case false.false => linarith
  all_goals constructor <;> linarith

theorem StandsFor.shiftRight {em : ExtendedMantissa} {q : ℚ} (h : StandsFor em q) (k : ℕ) :
    StandsFor (em >>> k) (q / 2 ^ k) := by
  induction k with
  | zero =>
    rw [pow_zero, div_one]
    exact h
  | succ k ih =>
      have hstep := ih.shiftRightOne
      rw [div_div, ← pow_succ] at hstep
      exact hstep

/-- What is rounded up lies above the mantissa. -/
theorem StandsFor.roundedMantissa {em : ExtendedMantissa} {q : ℚ} (h : StandsFor em q) :
    em.roundedMantissa = em.mantissa ∨
      em.roundedMantissa = em.mantissa + 1 ∧ (em.mantissa : ℚ) < q := by
  obtain ⟨m, r, s⟩ := em
  have hround : r = true → (m : ℚ) < q := by
    rintro rfl
    cases s <;> simp [StandsFor, half] at h <;> linarith
  cases r with
  | false => cases s <;> exact .inl rfl
  | true =>
      cases s with
      | true => exact .inr ⟨rfl, hround rfl⟩
      | false =>
          -- Halfway, the mantissa is rounded to an even one.
          rcases Nat.mod_two_eq_zero_or_one m with hbit | hbit
          · exact .inl (congrArg (m + ·) hbit)
          · exact .inr ⟨congrArg (m + ·) hbit, hround rfl⟩

/-- Rounding keeps to the side of every whole number. -/
theorem StandsFor.rounded {em : ExtendedMantissa} {q : ℚ} (h : StandsFor em q) (z : ℕ) :
    ((z : ℚ) ≤ q → z ≤ em.roundedMantissa) ∧ (q ≤ z → em.roundedMantissa ≤ z) := by
  obtain ⟨hle, hlt⟩ := h.mantissa_le
  constructor
  · intro hz
    have hm : z < em.mantissa + 1 := by exact_mod_cast hz.trans_lt hlt
    rcases h.roundedMantissa with hr | ⟨hr, -⟩ <;> omega
  · intro hz
    rcases h.roundedMantissa with hr | ⟨hr, hup⟩ <;> rw [hr]
    · exact_mod_cast hle.trans hz
    · exact_mod_cast hup.trans_le hz

/-! ## Rounding -/

/-- Numbers with a mantissa of 53 bits. -/
def Short (z : ℚ) : Prop := ∃ (m : ℕ) (e : ℤ), m < 2 ^ 53 ∧ z = m * 2 ^ e

/-- The number `v` lies on the same side of every short number as `x`. -/
def RoundsTo (x v : ℚ) : Prop := ∀ z, Short z → (z ≤ x → z ≤ v) ∧ (x ≤ z → v ≤ z)

/-- Numbers that are far from the least double and from the greatest. -/
structure Moderate (x : ℚ) : Prop where
  ge : 2 ^ (-200 : ℤ) ≤ x
  le : x ≤ 2 ^ (200 : ℤ)

/-- A mantissa of 53 bits, with an exponent far from the ends. -/
structure Normal (m : ℕ) (e : ℤ) : Prop where
  ge : 2 ^ 52 ≤ m
  lt : m < 2 ^ 53
  low : -300 ≤ e
  high : e ≤ 300

theorem Normal.pos {m : ℕ} {e : ℤ} (h : Normal m e) : 0 < m := Nat.lt_of_lt_of_le (by decide) h.ge

theorem short_two_zpow (e : ℤ) : Short (2 ^ e) := ⟨1, e, by decide, by simp⟩

theorem RoundsTo.moderate {x v : ℚ} (h : RoundsTo x v) (hx : Moderate x) : Moderate v :=
  ⟨(h _ (short_two_zpow _)).1 hx.ge, (h _ (short_two_zpow _)).2 hx.le⟩

theorem RoundsTo.eq {x v : ℚ} (h : RoundsTo x v) (hx : Short x) : v = x :=
  le_antisymm ((h x hx).2 le_rfl) ((h x hx).1 le_rfl)

/-- Numbers with more bits than there is room for lie above those with less. -/
theorem mul_zpow_lt {a b : ℚ} {e f : ℤ} (hef : e < f) (ha : a < 2 ^ 53) (hb : 2 ^ 52 ≤ b) :
    a * 2 ^ e < b * 2 ^ f := by
  have hpos : ∀ n : ℤ, (0 : ℚ) < 2 ^ n := fun n => by positivity
  calc a * 2 ^ e < 2 ^ 53 * 2 ^ e := mul_lt_mul_of_pos_right ha (hpos e)
    _ = 2 ^ 52 * 2 ^ (e + 1) := by
        rw [zpow_add_one₀ two_ne_zero]
        ring
    _ ≤ 2 ^ 52 * 2 ^ f :=
        mul_le_mul_of_nonneg_left (zpow_le_zpow_right₀ one_le_two (by omega)) (by positivity)
    _ ≤ b * 2 ^ f := mul_le_mul_of_nonneg_right hb (hpos f).le

/-- So the exponent of a number that is not above another one is not above that of the other. -/
theorem exponent_le {a b : ℚ} {e f : ℤ} (ha : a < 2 ^ 53) (hb : 2 ^ 52 ≤ b)
    (h : b * 2 ^ f ≤ a * 2 ^ e) : f ≤ e := by
  by_contra hlt
  exact absurd h (not_le.2 (mul_zpow_lt (not_le.1 hlt) ha hb))

theorem normal_of_moderate {m : ℕ} {e : ℤ} (hlo : 2 ^ 52 ≤ m) (hhi : m < 2 ^ 53)
    (h : Moderate (m * 2 ^ e)) : Normal m e := by
  have hlo' : (2 : ℚ) ^ 52 ≤ m := by exact_mod_cast hlo
  have hhi' : (m : ℚ) < 2 ^ 53 := by exact_mod_cast hhi
  have hleast : (2 : ℚ) ^ 52 * 2 ^ (-252 : ℤ) = 2 ^ (-200 : ℤ) := by norm_num
  have hlow : -252 ≤ e := exponent_le hhi' le_rfl (hleast ▸ h.ge)
  have hhigh : e ≤ 200 := @exponent_le 1 m 200 e (by norm_num) hlo' (h.le.trans_eq (one_mul _).symm)
  exact ⟨hlo, hhi, by omega, by omega⟩

/-- In units of the mantissa, rounding goes by the whole numbers. -/
theorem roundsTo_scale {q : ℚ} {r : ℕ} {e : ℤ} (hq : 2 ^ 52 ≤ q) (hr : 2 ^ 52 ≤ r)
    (h : ∀ z : ℕ, ((z : ℚ) ≤ q → z ≤ r) ∧ (q ≤ z → r ≤ z)) : RoundsTo (q * 2 ^ e) (r * 2 ^ e) := by
  rintro _ ⟨m, f, hm, rfl⟩
  have hpos : (0 : ℚ) < 2 ^ e := by positivity
  by_cases hef : e ≤ f
  · obtain ⟨k, rfl⟩ := Int.le.dest hef
    have hz : (m : ℚ) * 2 ^ (e + k) = (m * 2 ^ k : ℕ) * 2 ^ e := by
      rw [zpow_add₀ two_ne_zero, zpow_natCast]
      push_cast
      ring
    simp only [hz, mul_le_mul_iff_left₀ hpos]
    exact_mod_cast h (m * 2 ^ k)
  · -- The short number lies below both.
    have hm' : (m : ℚ) < 2 ^ 53 := by exact_mod_cast hm
    have hr' : (2 : ℚ) ^ 52 ≤ r := by exact_mod_cast hr
    have hx := mul_zpow_lt (not_le.1 hef) hm' hq
    have hv := mul_zpow_lt (not_le.1 hef) hm' hr'
    exact ⟨fun _ => hv.le, fun hle => absurd hx (not_lt.2 hle)⟩

/-! ## Rounding of the model -/

theorem mantissa_ofMantissaAndAccuracy (m : ℕ) (acc : Accuracy) :
    (ExtendedMantissa.ofMantissaAndAccuracy m acc).mantissa = m := by
  rcases acc with _ | _ | _ | _ <;> rfl

theorem standsFor_exact (m : ℕ) : StandsFor (.ofMantissaAndAccuracy m .exact) m := by
  simp [StandsFor, ExtendedMantissa.ofMantissaAndAccuracy, half]

theorem targetExponent_eq {l : ℤ} (h : -1021 ≤ l) :
    Format.binary64.targetExponent l = l - 53 := by
  have hbits : Format.binary64.mantissaBits = 53 := rfl
  have hmin : Format.binary64.minExponent = -1074 := by decide
  rw [Format.targetExponent, hbits, hmin]
  exact max_eq_left (by omega)

/-- A mantissa of `53 + k` bits is shifted by `k`. -/
theorem shiftToTargetExponent_eq {m k : ℕ} {e : ℤ} (hk : m.log2 = 52 + k)
    (he : -1074 ≤ e + k) (acc : Accuracy) :
    shiftToTargetExponent .binary64 m e acc =
      (ExtendedMantissa.ofMantissaAndAccuracy m acc >>> k, e + k) := by
  have htarget : Format.binary64.targetExponent (totalExponent m e) = e + k := by
    rw [totalExponent, targetExponent_eq (by omega)]
    omega
  have hshift : (e + k - e).toNat = k := by omega
  change (ExtendedMantissa.ofMantissaAndAccuracy m acc >>> (_ - e).toNat,
    e + ((_ - e).toNat : ℤ)) = _
  rw [htarget, hshift]

theorem roundWithAccuracy_of_shifts {s : Sign} {m : ℕ} {e f g : ℤ} {acc : Accuracy}
    {em rounded : ExtendedMantissa} (hfirst : shiftToTargetExponent .binary64 m e acc = (em, f))
    (hsecond : shiftToTargetExponent .binary64 em.roundedMantissa f .exact = (rounded, g))
    (h : 0 < rounded.mantissa) :
    roundWithAccuracy .binary64 s m e acc = .finite s rounded.mantissa g h := by
  simp only [roundWithAccuracy, hfirst, hsecond]
  rw [dif_neg h.ne']

/-- A double is the number `x` rounded. -/
def Rounded (s : Sign) (x : ℚ) (u : Float.Model.UnpackedFloat) : Prop :=
  ∃ r f, ∃ h : Normal r f, u = .finite s r f h.pos ∧ RoundsTo x (r * 2 ^ f)

/-- The exponent of a moderate number is that of a normal one. -/
theorem log2_of_moderate {m : ℕ} {e : ℤ} {q : ℚ} (hq : q < m + 1) (hx : Moderate (q * 2 ^ e)) :
    -200 < m.log2 + 1 + e := by
  have hle : (m : ℚ) + 1 ≤ 2 ^ (m.log2 + 1) := by exact_mod_cast Nat.lt_log2_self
  have hpos : (0 : ℚ) < 2 ^ e := by positivity
  have hlt : (2 : ℚ) ^ (-200 : ℤ) < 2 ^ ((m.log2 + 1 : ℕ) + e) := by
    rw [zpow_add₀ two_ne_zero, zpow_natCast]
    exact hx.ge.trans_lt (mul_lt_mul_of_pos_right (hq.trans_le hle) hpos)
  have := (zpow_lt_zpow_iff_right₀ one_lt_two).1 hlt
  omega

/-- What is left of a mantissa of `53 + k` bits after a shift by `k` has 53 bits, or it is the least
number that has more. -/
theorem bounds_of_shift {m k : ℕ} {q : ℚ} (hk : m.log2 = 52 + k) (hm : m ≠ 0) (hmq : (m : ℚ) ≤ q)
    (hqm : q < m + 1) : (2 ^ 52 : ℕ) ≤ q / 2 ^ k ∧ q / 2 ^ k ≤ (2 ^ 53 : ℕ) := by
  have hlo : 2 ^ 52 * 2 ^ k ≤ m := by
    rw [← pow_add, ← hk]
    exact Nat.log2_self_le hm
  have hhi : m + 1 ≤ 2 ^ 53 * 2 ^ k := by
    rw [← pow_add, show 53 + k = m.log2 + 1 by omega]
    exact Nat.lt_log2_self
  rw [le_div_iff₀ (by positivity), div_le_iff₀ (by positivity)]
  exact ⟨le_trans (by exact_mod_cast hlo) hmq, hqm.le.trans (by exact_mod_cast hhi)⟩

/-- The second shift is by one bit if the rounded mantissa has got one more, which is zero, and else
there is nothing to shift. -/
theorem rounded_of_shift {s : Sign} {m : ℕ} {e f : ℤ} {acc : Accuracy} {x : ℚ}
    {em : ExtendedMantissa} (hfirst : shiftToTargetExponent .binary64 m e acc = (em, f))
    (hlo : 2 ^ 52 ≤ em.roundedMantissa) (hhi : em.roundedMantissa ≤ 2 ^ 53) (hf : -1074 ≤ f)
    (hscale : RoundsTo x (em.roundedMantissa * 2 ^ f)) (hx : Moderate x) :
    Rounded s x (roundWithAccuracy .binary64 s m e acc) := by
  have hmoderate := hscale.moderate hx
  rcases hhi.lt_or_eq with hlt | heq
  · have hsecond := @shiftToTargetExponent_eq em.roundedMantissa 0 f
      ((Nat.log2_eq_iff (by omega)).2 ⟨hlo, hlt⟩) (by omega) .exact
    rw [Nat.cast_zero, add_zero] at hsecond
    have hnormal := normal_of_moderate hlo hlt hmoderate
    exact ⟨_, _, hnormal, roundWithAccuracy_of_shifts hfirst hsecond hnormal.pos, hscale⟩
  · have hsecond := @shiftToTargetExponent_eq em.roundedMantissa 1 f
      (by rw [heq]; exact Nat.log2_two_pow) (by omega) .exact
    have hhalf : (ExtendedMantissa.ofMantissaAndAccuracy em.roundedMantissa .exact >>> 1).mantissa =
        2 ^ 52 := by
      rw [heq]
      rfl
    have hvalue : (em.roundedMantissa : ℚ) * 2 ^ f = (2 ^ 52 : ℕ) * 2 ^ (f + (1 : ℕ)) := by
      rw [heq, zpow_add₀ two_ne_zero _ ((1 : ℕ) : ℤ)]
      push_cast
      ring
    rw [hvalue, ← hhalf] at hscale hmoderate
    have hnormal := normal_of_moderate hhalf.ge (hhalf ▸ by decide) hmoderate
    exact ⟨_, _, hnormal, roundWithAccuracy_of_shifts hfirst hsecond hnormal.pos, hscale⟩

/-- A number with enough bits is rounded to a normal one. -/
theorem roundWithAccuracy_eq (s : Sign) {m : ℕ} {e : ℤ} {acc : Accuracy} {q : ℚ}
    (hm : 2 ^ 52 ≤ m) (hq : StandsFor (.ofMantissaAndAccuracy m acc) q)
    (hx : Moderate (q * 2 ^ e)) :
    Rounded s (q * 2 ^ e) (roundWithAccuracy .binary64 s m e acc) := by
  obtain ⟨k, hk⟩ : ∃ k, m.log2 = 52 + k := Nat.exists_eq_add_of_le ((Nat.le_log2 (by omega)).2 hm)
  obtain ⟨hmq, hqm⟩ := hq.mantissa_le
  rw [mantissa_ofMantissaAndAccuracy] at hmq hqm
  have he := log2_of_moderate hqm hx
  have hround := hq.shiftRight k
  have hfirst := shiftToTargetExponent_eq hk (show -1074 ≤ e + k by omega) acc
  obtain ⟨hlo, hhi⟩ := bounds_of_shift hk (by omega) hmq hqm
  have hrlo := (hround.rounded _).1 hlo
  refine rounded_of_shift hfirst hrlo ((hround.rounded _).2 hhi) (by omega) ?_ hx
  have hunits : q * 2 ^ e = q / 2 ^ k * 2 ^ (e + k) := by
    rw [zpow_add₀ two_ne_zero, zpow_natCast]
    field_simp
  rw [hunits]
  exact roundsTo_scale (by exact_mod_cast hlo) hrlo hround.rounded

/-- A number is rounded to one with a mantissa of 53 bits. -/
theorem round_eq (s : Sign) {m : ℕ} {e : ℤ} (hm : 0 < m) (hx : Moderate (m * 2 ^ e)) :
    Rounded s (m * 2 ^ e) (round .binary64 s m e) := by
  have he := log2_of_moderate (lt_add_one (m : ℚ)) hx
  obtain ⟨j, hj⟩ : ∃ j, j = 52 - m.log2 := ⟨_, rfl⟩
  have htarget : (e - Format.binary64.targetExponent (totalExponent m e)).toNat = j := by
    rw [totalExponent, targetExponent_eq (by omega)]
    omega
  have hbits : 2 ^ 52 ≤ m <<< j := by
    rw [Nat.shiftLeft_eq]
    calc 2 ^ 52 ≤ 2 ^ (m.log2 + j) := Nat.pow_le_pow_right (by decide) (by omega)
      _ = 2 ^ m.log2 * 2 ^ j := pow_add _ _ _
      _ ≤ m * 2 ^ j := Nat.mul_le_mul_right _ (Nat.log2_self_le hm.ne')
  have hvalue : ((m <<< j : ℕ) : ℚ) * 2 ^ (e - j) = m * 2 ^ e := by
    rw [Nat.shiftLeft_eq, zpow_sub₀ two_ne_zero, zpow_natCast]
    push_cast
    field_simp
  rw [← hvalue] at hx ⊢
  have hrounded := roundWithAccuracy_eq s hbits (standsFor_exact _) hx
  rw [← htarget] at hrounded ⊢
  exact hrounded

end Emend.Rounding
