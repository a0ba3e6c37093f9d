import Mathlib
import Emend.Proofs.Distance.Rounding
import Emend.Proofs.Distance.Scores
/-!
# Doubles as numbers

A double that is a positive number of moderate size has a value (`HasValue`), and doubles are in
the order of their values (`HasValue.lt_iff`).  The double of a count is the count, if 53 bits are
enough for it (`hasValue_count`).  A product, a quotient or a difference of two doubles has the
value of the exact one, rounded (`hasValue_mul`, `hasValue_div`, `hasValue_sub`), and to truncate a
double is to leave out its fraction (`exists_toUInt64`).

All this is what the operations do on mantissas and exponents: what is packed into a double comes
back when it is unpacked (`unpack_pack`).
-/

namespace Emend.Rounding

open Float.Model (Format totalExponent)
open Float.Model.UnpackedFloat

/-! ## Packing -/

/-- Normal numbers are kept when they are packed. -/
theorem unpack_pack (s : Sign) {m : ℕ} {e : ℤ} (h : Normal m e) :
    (Float.Model.pack (.finite s m e h.pos)).unpack = .finite s m e h.pos := by
  obtain ⟨hle, hlt, hlow, hhigh⟩ := h
  have hlog : m.log2 = 52 := (Nat.log2_eq_iff (by omega)).2 ⟨hle, hlt⟩
  have hbias : (e + Format.binary64.exponentBias +
      Format.binary64.mantissaBitsWithoutImplicit).toNat = (e + 1075).toNat := by
    change (e + 1023 + 52).toNat = _
    omega
  have hexp : (BitVec.ofNat 11 (e + 1075).toNat).toNat = (e + 1075).toNat := by
    rw [BitVec.toNat_ofNat]
    omega
  have hmant : (1#1 ++ BitVec.ofNat 52 m).toNat = m := by
    rw [BitVec.toNat_append, ← Nat.shiftLeft_add_eq_or_of_lt (BitVec.isLt _), BitVec.toNat_ofNat]
    simp
    omega
  have hpack : ∀ h : 0 < m, pack .binary64 (.finite s m e h) =
      packComponents .binary64 s (BitVec.ofNat 11 (e + 1075).toNat) (BitVec.ofNat 52 m) := by
    intro h
    simp only [pack, hlog, hbias]
    rw [if_neg (by omega), if_pos (show 52 + 1 = Format.binary64.mantissaBits from rfl)]
  -- The exponent is neither that of infinities nor that of zeros.
  have hne : ∀ b : BitVec 11, b.toNat = 0 ∨ b.toNat = 2047 →
      BitVec.ofNat 11 (e + 1075).toNat ≠ b := by
    rintro b hb rfl
    omega
  have hback : ((e + 1075).toNat : ℤ) - (1023 + 52) = e := by omega
  change unpack .binary64 (pack .binary64 _) = _
  rw [hpack]
  simp only [unpack, unpackMantissa_packComponents, unpackExponent_packComponents,
    unpackSign_packComponents, Sign.ofBitVec_toBitVec, if_neg (hne (-1#11) (.inr rfl)),
    if_neg (hne 0#11 (.inl rfl)), hmant, hexp]
  exact congrArg (fun f => finite s m f _) hback

/-! ## Values of doubles -/

/-- The double is the positive number `v`. -/
def HasValue (x : Float) (v : ℚ) : Prop :=
  ∃ m e, ∃ h : Normal m e, x.toModel.unpack = .finite .positive m e h.pos ∧ v = m * 2 ^ e

theorem HasValue.pos {x : Float} {v : ℚ} (h : HasValue x v) : 0 < v := by
  obtain ⟨m, e, hm, -, rfl⟩ := h
  have : (0 : ℚ) < m := by exact_mod_cast hm.pos
  positivity

/-- Doubles are in the order of their values. -/
theorem HasValue.lt_iff {x y : Float} {v w : ℚ} (hx : HasValue x v) (hy : HasValue y w) :
    x < y ↔ v < w := by
  obtain ⟨m, e, hm, hux, rfl⟩ := hx
  obtain ⟨n, f, hn, huy, rfl⟩ := hy
  rw [Score.lt_iff_of_rank (congrArg Distance.rank? hux) (congrArg Distance.rank? huy),
    Prod.Lex.toLex_lt_toLex]
  simp only [lt_self_iff_false, true_and, false_or, Prod.Lex.toLex_lt_toLex]
  have hle : ∀ {k f}, Normal k f → (2 : ℚ) ^ 52 ≤ k := fun h => by exact_mod_cast h.ge
  have hlt : ∀ {k f}, Normal k f → (k : ℚ) < 2 ^ 53 := fun h => by exact_mod_cast h.lt
  rcases lt_trichotomy e f with hef | rfl | hef
  · exact iff_of_true (.inl hef) (mul_zpow_lt hef (hlt hm) (hle hn))
  · have hpos : (0 : ℚ) < 2 ^ e := by positivity
    rw [mul_lt_mul_iff_left₀ hpos]
    simp
  · exact iff_of_false (by omega) (not_lt.2 (mul_zpow_lt hef (hlt hn) (hle hm)).le)

theorem hasValue_of_rounded {x : ℚ} {u : Float.Model.UnpackedFloat} (h : Rounded .positive x u) :
    ∃ v, HasValue (.ofModel (.pack u)) v ∧ RoundsTo x v := by
  obtain ⟨r, f, hnormal, rfl, hto⟩ := h
  exact ⟨_, ⟨r, f, hnormal, unpack_pack .positive hnormal, rfl⟩, hto⟩

/-! ## Arithmetic -/

theorem normalize_of_pos {d e : ℤ} (h : 0 < d) :
    Float.Model.UnpackedFloat.normalize .binary64 d e .positive =
      round .binary64 .positive d.toNat e := by
  unfold Float.Model.UnpackedFloat.normalize
  rw [compare_gt_iff_gt.2 h]

/-- A count is rounded to a double. -/
theorem hasValue_toFloat {k : UInt64} (hk : 1 ≤ k.toNat) :
    ∃ v, HasValue k.toFloat v ∧ RoundsTo k.toNat v := by
  have hge : (1 : ℚ) ≤ k.toNat := by exact_mod_cast hk
  have hle : (k.toNat : ℚ) ≤ 2 ^ 64 := by exact_mod_cast k.toNat_lt.le
  have hmoderate : Moderate (k.toNat * 2 ^ (0 : ℤ)) := by
    rw [zpow_zero, mul_one]
    exact ⟨le_trans (by norm_num) hge, hle.trans (by norm_num)⟩
  have hfloat : k.toFloat = .ofModel (.pack (round .binary64 .positive k.toNat 0)) := by
    change Float.ofModel
      (.pack (Float.Model.UnpackedFloat.normalize .binary64 (k.toNat : ℤ) 0 .positive)) = _
    rw [normalize_of_pos (by omega), Int.toNat_natCast]
  have hrounded := hasValue_of_rounded (round_eq .positive hk hmoderate)
  rwa [zpow_zero, mul_one, ← hfloat] at hrounded

theorem short_count {n : ℕ} (hle : n ≤ 2 ^ 53) : Short n := by
  rcases hle.lt_or_eq with hlt | rfl
  · exact ⟨n, 0, hlt, by simp⟩
  · exact ⟨1, 53, by decide, by norm_num⟩

/-- Counts for which 53 bits are enough are doubles. -/
theorem hasValue_count {n : ℕ} (hpos : 1 ≤ n) (hle : n ≤ 2 ^ 53) :
    HasValue n.toUInt64.toFloat n := by
  have hnat : n.toUInt64.toNat = n := by
    rw [Nat.toUInt64, UInt64.toNat_ofNat']
    omega
  obtain ⟨v, hv, hto⟩ := hasValue_toFloat (hnat.symm ▸ hpos : 1 ≤ n.toUInt64.toNat)
  rw [hnat] at hto
  rwa [hto.eq (short_count hle)] at hv

variable {x y : Float} {v w : ℚ}

theorem hasValue_mul (hx : HasValue x v) (hy : HasValue y w) (h : Moderate (v * w)) :
    ∃ u, HasValue (x * y) u ∧ RoundsTo (v * w) u := by
  obtain ⟨m, e, hm, hux, rfl⟩ := hx
  obtain ⟨n, f, hn, huy, rfl⟩ := hy
  have hvalue : (m : ℚ) * 2 ^ e * (n * 2 ^ f) = (m * n : ℕ) * 2 ^ (e + f) := by
    rw [zpow_add₀ two_ne_zero]
    push_cast
    ring
  have hbits : 2 ^ 52 ≤ m * n := hm.ge.trans (Nat.le_mul_of_pos_right m hn.pos)
  have hmul : x * y =
      .ofModel (.pack (roundWithAccuracy .binary64 .positive (m * n) (e + f) .exact)) := by
    change Float.ofModel (.pack (mul .binary64 x.toModel.unpack y.toModel.unpack)) = _
    rw [hux, huy]
    rfl
  rw [hvalue] at h ⊢
  rw [hmul]
  exact hasValue_of_rounded (roundWithAccuracy_eq .positive hbits (standsFor_exact _) h)

theorem standsFor_accuracyOfFraction (q : ℕ) {num den : ℕ} (h : num < den) :
    StandsFor (.ofMantissaAndAccuracy q (accuracyOfFraction num den)) (q + num / den) := by
  have hden : (0 : ℚ) < den := by exact_mod_cast Nat.zero_lt_of_lt h
  have hfrac : (num : ℚ) / den < 1 := (div_lt_one hden).2 (by exact_mod_cast h)
  unfold accuracyOfFraction
  split
  · next hzero =>
    rw [hzero, Nat.cast_zero, zero_div, add_zero]
    exact standsFor_exact q
  · next hzero =>
    have hnum : (0 : ℚ) < num / den := div_pos (by exact_mod_cast Nat.pos_of_ne_zero hzero) hden
    have hscale : 2 * ((num : ℚ) / den) = (2 * num : ℕ) / den := by
      push_cast
      ring
    rcases lt_trichotomy (2 * num) den with hlt | heq | hgt
    · have hhalf : ((2 * num : ℕ) : ℚ) / den < 1 := (div_lt_one hden).2 (by exact_mod_cast hlt)
      rw [compare_lt_iff_lt.2 hlt]
      simp [StandsFor, ExtendedMantissa.ofMantissaAndAccuracy, half]
      constructor <;> linarith
    · have hhalf : ((2 * num : ℕ) : ℚ) / den = 1 := by rw [heq, div_self hden.ne']
      rw [compare_eq_iff_eq.2 heq]
      simp [StandsFor, ExtendedMantissa.ofMantissaAndAccuracy, half]
      linarith
    · have hhalf : 1 < ((2 * num : ℕ) : ℚ) / den := (one_lt_div hden).2 (by exact_mod_cast hgt)
      rw [compare_gt_iff_gt.2 hgt]
      simp [StandsFor, ExtendedMantissa.ofMantissaAndAccuracy, half]
      constructor <;> linarith

theorem totalExponent_of_normal {m : ℕ} {e : ℤ} (h : Normal m e) :
    totalExponent m e = 53 + e := by
  rw [totalExponent, (Nat.log2_eq_iff h.pos.ne').2 ⟨h.ge, h.lt⟩]
  rfl

theorem divCore_eq {m n : ℕ} {e f : ℤ} (hm : Normal m e) (hn : Normal n f) :
    divCore .binary64 m e n f =
      (m * 2 ^ 53 / n, e - f - 53, accuracyOfFraction (m * 2 ^ 53 % n) n) := by
  have he := hm.low
  have hf := hn.high
  have htarget : min (e - f) (Format.binary64.targetExponent
      (totalExponent m e - totalExponent n f)) = e - f - 53 := by
    rw [totalExponent_of_normal hm, totalExponent_of_normal hn, targetExponent_eq (by omega)]
    omega
  have hshift : (e - f - (e - f - 53)).toNat = 53 := by omega
  unfold divCore
  dsimp only
  rw [htarget, hshift, Nat.shiftLeft_eq]

theorem hasValue_div (hx : HasValue x v) (hy : HasValue y w) (h : Moderate (v / w)) :
    ∃ u, HasValue (x / y) u ∧ RoundsTo (v / w) u := by
  obtain ⟨m, e, hm, hux, rfl⟩ := hx
  obtain ⟨n, f, hn, huy, rfl⟩ := hy
  have hn' : (n : ℚ) ≠ 0 := by exact_mod_cast hn.pos.ne'
  have hvalue : (m : ℚ) * 2 ^ e / (n * 2 ^ f) =
      ((m * 2 ^ 53 / n : ℕ) + (m * 2 ^ 53 % n : ℕ) / n) * 2 ^ (e - f - 53) := by
    have hdivmod : ((m * 2 ^ 53 / n : ℕ) : ℚ) * n + (m * 2 ^ 53 % n : ℕ) = m * 2 ^ 53 := by
      exact_mod_cast Nat.div_add_mod' (m * 2 ^ 53) n
    have hquotient : ((m * 2 ^ 53 / n : ℕ) : ℚ) + (m * 2 ^ 53 % n : ℕ) / n = m * 2 ^ 53 / n := by
      rw [← hdivmod]
      field_simp
    rw [hquotient, zpow_sub₀ two_ne_zero, zpow_sub₀ two_ne_zero]
    field_simp
  have hbits : 2 ^ 52 ≤ m * 2 ^ 53 / n := by
    have := hm.ge
    have := hn.lt
    exact (Nat.le_div_iff_mul_le hn.pos).2 (by omega)
  have hdiv : x / y = .ofModel (.pack (roundWithAccuracy .binary64 .positive (m * 2 ^ 53 / n)
      (e - f - 53) (accuracyOfFraction (m * 2 ^ 53 % n) n))) := by
    change Float.ofModel (.pack (div .binary64 x.toModel.unpack y.toModel.unpack)) = _
    rw [hux, huy]
    simp only [div, divCore_eq hm hn]
    rfl
  rw [hvalue] at h ⊢
  rw [hdiv]
  exact hasValue_of_rounded (roundWithAccuracy_eq .positive hbits
    (standsFor_accuracyOfFraction _ (Nat.mod_lt _ hn.pos)) h)

/-- A mantissa at a lower exponent. -/
theorem shiftLeft_value (m : ℕ) {e g : ℤ} (h : g ≤ e) :
    ((m <<< (e - g).toNat : ℕ) : ℚ) * 2 ^ g = m * 2 ^ e := by
  obtain ⟨k, rfl⟩ := Int.le.dest h
  have hk : (g + k - g).toNat = k := by omega
  rw [hk, Nat.shiftLeft_eq, zpow_add₀ two_ne_zero, zpow_natCast]
  push_cast
  ring

theorem low_of_le {m : ℕ} {e : ℤ} (h : Normal m e) (hle : 2 ^ (-100 : ℤ) ≤ (m : ℚ) * 2 ^ e) :
    -152 ≤ e := by
  have hlt : (m : ℚ) < 2 ^ 53 := by exact_mod_cast h.lt
  have hleast : (2 : ℚ) ^ 52 * 2 ^ (-152 : ℤ) = 2 ^ (-100 : ℤ) := by norm_num
  exact exponent_le hlt le_rfl (hleast ▸ hle)

/-- Numbers that are moderate, and so are their differences. -/
def Small (v : ℚ) : Prop := 2 ^ (-100 : ℤ) ≤ v ∧ v ≤ 2 ^ (100 : ℤ)

theorem Small.nonneg (h : Small v) : 0 ≤ v :=
  (show (0 : ℚ) ≤ 2 ^ (-100 : ℤ) by positivity).trans h.1

theorem moderate_of_low {d : ℕ} {g : ℤ} (hd : 0 < d) (hg : -152 ≤ g)
    (hle : (d : ℚ) * 2 ^ g ≤ 2 ^ (100 : ℤ)) : Moderate (d * 2 ^ g) := by
  have hone : (1 : ℚ) ≤ d := by exact_mod_cast hd
  constructor
  · calc (2 : ℚ) ^ (-200 : ℤ) ≤ 2 ^ g := zpow_le_zpow_right₀ one_le_two (by omega)
      _ ≤ d * 2 ^ g := le_mul_of_one_le_left (by positivity) hone
  · exact hle.trans (by norm_num)

section Sub

variable (hx : HasValue x v) (hy : HasValue y w) (hv : Small v) (hw : Small w)

include hx hy hv hw

/-- Mantissas are subtracted at the lower one of two exponents. -/
theorem exists_sub : ∃ d g : ℤ, -152 ≤ g ∧ v - w = d * 2 ^ g ∧
    x - y = .ofModel (.pack (Float.Model.UnpackedFloat.normalize .binary64 d g .positive)) := by
  obtain ⟨m, e, hm, hux, rfl⟩ := hx
  obtain ⟨n, f, hn, huy, rfl⟩ := hy
  have he := low_of_le hm hv.1
  have hf := low_of_le hn hw.1
  refine ⟨(m <<< (e - min e f).toNat : ℕ) - (n <<< (f - min e f).toNat : ℕ), min e f, by omega,
    ?_, ?_⟩
  · rw [← shiftLeft_value m (min_le_left e f), ← shiftLeft_value n (min_le_right e f),
      Int.cast_sub, Int.cast_natCast, Int.cast_natCast]
    ring
  · change Float.ofModel (.pack (sub .binary64 x.toModel.unpack y.toModel.unpack)) = _
    rw [hux, huy]
    rfl

/-- A difference that is positive. -/
theorem hasValue_sub (hlt : w < v) : ∃ u, HasValue (x - y) u ∧ RoundsTo (v - w) u := by
  obtain ⟨d, g, hg, hvalue, hsub⟩ := exists_sub hx hy hv hw
  have hpos : 0 < d := by
    have hpos : 0 < (d : ℚ) * 2 ^ g := hvalue ▸ sub_pos.2 hlt
    exact_mod_cast pos_of_mul_pos_left hpos (by positivity)
  have hnat : (d : ℚ) = d.toNat := by rw [← Int.cast_natCast, Int.toNat_of_nonneg hpos.le]
  have hle : v - w ≤ 2 ^ (100 : ℤ) := (sub_le_self _ hw.nonneg).trans hv.2
  rw [hvalue, hnat] at hle ⊢
  rw [hsub, normalize_of_pos hpos]
  exact hasValue_of_rounded
    (round_eq .positive (by omega) (moderate_of_low (by omega) hg hle))

/-- A difference that is not positive. -/
theorem rank?_sub (hle : v ≤ w) :
    ∃ p, Distance.rank? (x - y).toModel.unpack = some p ∧ p ≤ toLex (0, toLex (0, 0)) := by
  obtain ⟨d, g, hg, hvalue, hsub⟩ := exists_sub hx hy hv hw
  have hnonpos : d ≤ 0 := by
    have hnonpos : (d : ℚ) * 2 ^ g ≤ 0 := hvalue ▸ sub_nonpos.2 hle
    exact_mod_cast nonpos_of_mul_nonpos_left hnonpos (by positivity)
  rw [hsub, show ∀ m : Float.Model, (Float.ofModel m).toModel = m from fun _ => rfl]
  rcases hnonpos.lt_or_eq with hneg | rfl
  · have hnat : (d : ℚ) = -((-d).toNat : ℚ) := by
      rw [← Int.cast_natCast, Int.toNat_of_nonneg (by omega), Int.cast_neg, neg_neg]
    have hle : w - v ≤ 2 ^ (100 : ℤ) := (sub_le_self _ hv.nonneg).trans hw.2
    rw [← neg_sub, hvalue, hnat, neg_mul, neg_neg] at hle
    obtain ⟨r, g', hnormal, hround, -⟩ :=
      round_eq .negative (show 0 < (-d).toNat by omega) (moderate_of_low (by omega) hg hle)
    have hnormalize : Float.Model.UnpackedFloat.normalize .binary64 d g .positive =
        .finite .negative r g' hnormal.pos := by
      unfold Float.Model.UnpackedFloat.normalize
      rw [compare_lt_iff_lt.2 hneg, ← hround]
    rw [hnormalize, unpack_pack .negative hnormal]
    exact ⟨_, rfl, (Prod.Lex.toLex_lt_toLex.2 (.inl (show (-1 : ℤ) < 0 by decide))).le⟩
  · have hzero : Float.Model.UnpackedFloat.normalize .binary64 0 g .positive =
        .zero .positive := rfl
    rw [hzero]
    exact ⟨_, rfl, le_rfl⟩

end Sub

/-! ## Constants -/

theorem hasValue_of_rank? {m : ℕ} {e : ℤ} (h : Normal m e)
    (hrank : Distance.rank? x.toModel.unpack = some (toLex (1, toLex (e, (m : ℤ))))) :
    HasValue x (m * 2 ^ e) := by
  refine ⟨m, e, h, ?_, rfl⟩
  generalize x.toModel.unpack = u at hrank ⊢
  rcases u with (_ | _) | _ | _ | ⟨_ | _, n, f, hn⟩ <;> simp [Distance.rank?] at hrank
  obtain ⟨rfl, rfl⟩ := hrank
  rfl

theorem hasValue_one : HasValue 1.0 1 := by
  have h : HasValue 1.0 ((2 ^ 52 : ℕ) * 2 ^ (-52 : ℤ)) :=
    hasValue_of_rank? ⟨le_rfl, by decide, by decide, by decide⟩ Score.rank?_one
  have hvalue : ((2 ^ 52 : ℕ) : ℚ) * 2 ^ (-52 : ℤ) = 1 := by norm_num
  rwa [hvalue] at h

/-! ## Zeros and infinities -/

theorem unpack_div_zero (hx : HasValue x v) (hy : y.toModel.unpack = .zero .positive) :
    (x / y).toModel.unpack = .infinity .positive := by
  obtain ⟨m, e, hm, hux, -⟩ := hx
  change (Float.Model.pack (div .binary64 x.toModel.unpack y.toModel.unpack)).unpack = _
  have hdiv : ∀ h, div .binary64 (.finite .positive m e h) (.zero .positive) =
    .infinity .positive := fun _ => rfl
  rw [hux, hy, hdiv]
  rfl

theorem unpack_zero_div (hx : x.toModel.unpack = .zero .positive) (hy : HasValue y w) :
    (x / y).toModel.unpack = .zero .positive := by
  obtain ⟨m, e, hm, huy, -⟩ := hy
  change (Float.Model.pack (div .binary64 x.toModel.unpack y.toModel.unpack)).unpack = _
  have hdiv : ∀ h, div .binary64 (.zero .positive) (.finite .positive m e h) =
    .zero .positive := fun _ => rfl
  rw [hx, huy, hdiv]
  rfl

theorem unpack_sub_infinity (hx : HasValue x v) (hy : y.toModel.unpack = .infinity .positive) :
    (x - y).toModel.unpack = .infinity .negative := by
  obtain ⟨m, e, hm, hux, -⟩ := hx
  change (Float.Model.pack (sub .binary64 x.toModel.unpack y.toModel.unpack)).unpack = _
  have hsub : ∀ h, sub .binary64 (.finite .positive m e h) (.infinity .positive) =
    .infinity .negative := fun _ => rfl
  rw [hux, hy, hsub]
  rfl

theorem hasValue_sub_zero (hx : HasValue x v) (hy : y.toModel.unpack = .zero .positive) :
    HasValue (x - y) v := by
  obtain ⟨m, e, hm, hux, rfl⟩ := hx
  refine ⟨m, e, hm, ?_, rfl⟩
  change (Float.Model.pack (sub .binary64 x.toModel.unpack y.toModel.unpack)).unpack = _
  rw [hux, hy]
  exact unpack_pack .positive hm

/-! ## Truncation -/

/-- What is left of a number without its fraction. -/
theorem exists_roundToInt {m : ℕ} {e : ℤ} :
    ∃ t : ℕ, roundToInt .positive m e = t ∧ (t : ℚ) ≤ m * 2 ^ e ∧ (m : ℚ) * 2 ^ e < t + 1 := by
  have hshift := (standsFor_exact (m <<< e.toNat)).shiftRight (-e).toNat
  have hvalue : ((m <<< e.toNat : ℕ) : ℚ) / 2 ^ (-e).toNat = m * 2 ^ e := by
    have hparts : e = (e.toNat : ℤ) - ((-e).toNat : ℤ) := by omega
    conv_rhs => rw [hparts, zpow_sub₀ two_ne_zero, zpow_natCast, zpow_natCast]
    rw [Nat.shiftLeft_eq]
    push_cast
    ring
  obtain ⟨hle, hlt⟩ := hshift.mantissa_le
  rw [hvalue] at hle hlt
  refine ⟨_, ?_, hle, hlt⟩
  have hexp : (0 - (e - e.toNat)).toNat = (-e).toNat := by omega
  change (((ExtendedMantissa.ofMantissaAndAccuracy (m <<< (e - 0).toNat) .exact) >>>
    (0 - (e - (e - 0).toNat)).toNat).mantissa : ℤ) = _
  rw [sub_zero, hexp]

theorem toNat_ofNatClamp (t : ℕ) : (UInt64.ofNatClamp t).toNat = min t (2 ^ 64 - 1) := by
  unfold UInt64.ofNatClamp
  split
  · next h =>
    change t = _
    have : UInt64.size = 2 ^ 64 := rfl
    omega
  · next h =>
    change UInt64.size - 1 = _
    have : UInt64.size = 2 ^ 64 := rfl
    omega

theorem exists_toUInt64 (hx : HasValue x v) :
    ∃ t : ℕ, x.toUInt64.toNat = min t (2 ^ 64 - 1) ∧ (t : ℚ) ≤ v ∧ v < t + 1 := by
  obtain ⟨m, e, hm, hux, rfl⟩ := hx
  obtain ⟨t, ht, hle, hlt⟩ := @exists_roundToInt m e
  refine ⟨t, ?_, hle, hlt⟩
  change (UInt64.ofNatClamp (toInt 0 _ x.toModel.unpack).toNat).toNat = _
  rw [hux]
  change (UInt64.ofNatClamp (roundToInt .positive m e).toNat).toNat = _
  rw [ht, Int.toNat_natCast, toNat_ofNatClamp]

theorem toNat_toUInt64_le (hx : HasValue x v) {n : ℕ} (h : v ≤ n) : x.toUInt64.toNat ≤ n := by
  obtain ⟨t, ht, hle, -⟩ := exists_toUInt64 hx
  have htn : t ≤ n := by exact_mod_cast hle.trans h
  omega

theorem le_toNat_toUInt64 (hx : HasValue x v) {n : ℕ} (hn : n < 2 ^ 64) (h : (n : ℚ) ≤ v) :
    n ≤ x.toUInt64.toNat := by
  obtain ⟨t, ht, -, hlt⟩ := exists_toUInt64 hx
  have hnt : n < t + 1 := by exact_mod_cast h.trans_lt hlt
  omega

end Emend.Rounding
