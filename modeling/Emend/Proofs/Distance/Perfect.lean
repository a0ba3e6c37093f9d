import Emend.Proofs.Distance.Doubles
import Emend.Proofs.Distance.Exact
/-!
# Perfect scores

No score is above one (`not_one_lt_similarity`).  Only equal lists have the score one, as long as
arithmetic tells a distance from none (`similarity_lt_one`): it does so for lists of up to `2 ^ 53`
elements (`separates_of_le`), and for longer ones a single step may be lost.
-/

namespace Emend

namespace Score

open Rounding

/-! ## One minus a quotient -/

theorem unpack_zero : (0 : UInt64).toFloat.toModel.unpack = .zero .positive := rfl

theorem small_one : Small 1 := ⟨by norm_num, by norm_num⟩

/-- A quotient that is not too far from one. -/
theorem exists_quotient {x y : Float} {v w : ℚ} (hx : HasValue x v) (hy : HasValue y w)
    (hge : 2 ^ (-64 : ℤ) ≤ v / w) (hle : v / w ≤ 2 ^ (64 : ℤ)) :
    ∃ u, HasValue (x / y) u ∧ RoundsTo (v / w) u ∧ Small u := by
  obtain ⟨u, hu, hto⟩ := hasValue_div hx hy ⟨le_trans (by norm_num) hge, hle.trans (by norm_num)⟩
  have hlow := (hto _ (short_two_zpow _)).1 hge
  have hhigh := (hto _ (short_two_zpow _)).2 hle
  exact ⟨u, hu, hto, le_trans (by norm_num) hlow, hhigh.trans (by norm_num)⟩

theorem not_one_lt_one_sub {x : Float} {v : ℚ} (hx : HasValue x v) (hv : Small v) :
    ¬ 1.0 < 1.0 - x := by
  by_cases hlt : v < 1
  · obtain ⟨t, ht, hto⟩ := hasValue_sub hasValue_one hx small_one hv hlt
    rw [hasValue_one.lt_iff ht, not_lt]
    exact (hto 1 (short_two_zpow 0)).2 (sub_le_self 1 hx.pos.le)
  · obtain ⟨p, hp, hle⟩ := rank?_sub hasValue_one hx small_one hv (not_lt.1 hlt)
    rw [lt_iff_of_rank rank?_one hp, not_lt]
    exact hle.trans (by decide)

/-- One minus a quotient of counts is not above one. -/
theorem not_one_lt_sub (d n : UInt64) : ¬ 1.0 < 1.0 - d.toFloat / n.toFloat := by
  have hzero : ∀ k : UInt64, ¬ 1 ≤ k.toNat → k = 0 := fun k hk =>
    UInt64.toNat_inj.1 (by simpa using hk)
  have hbounds : ∀ {k : UInt64} {v : ℚ}, 1 ≤ k.toNat → RoundsTo k.toNat v → 1 ≤ v ∧ v ≤ 2 ^ 64 := by
    intro k v hk hto
    have hge : (1 : ℚ) ≤ k.toNat := by exact_mod_cast hk
    have hle : (k.toNat : ℚ) ≤ 2 ^ 64 := by exact_mod_cast k.toNat_lt.le
    exact ⟨(hto 1 (short_two_zpow 0)).1 hge, (hto (2 ^ 64) (short_two_zpow 64)).2 hle⟩
  by_cases hd : 1 ≤ d.toNat
  · obtain ⟨v, hv, hvto⟩ := hasValue_toFloat hd
    by_cases hn : 1 ≤ n.toNat
    · obtain ⟨w, hw, hwto⟩ := hasValue_toFloat hn
      obtain ⟨hvge, hvle⟩ := hbounds hd hvto
      obtain ⟨hwge, hwle⟩ := hbounds hn hwto
      have hge : (2 : ℚ) ^ (-64 : ℤ) ≤ v / w := by
        rw [le_div_iff₀ hw.pos]
        calc (2 : ℚ) ^ (-64 : ℤ) * w ≤ 2 ^ (-64 : ℤ) * 2 ^ 64 := by gcongr
          _ = 1 := by norm_num
          _ ≤ v := hvge
      have hle : v / w ≤ 2 ^ (64 : ℤ) := (div_le_self hv.pos.le hwge).trans (by exact_mod_cast hvle)
      obtain ⟨u, hu, -, hsmall⟩ := exists_quotient hv hw hge hle
      exact not_one_lt_one_sub hu hsmall
    · obtain rfl := hzero n hn
      have hsub := unpack_sub_infinity hasValue_one (unpack_div_zero hv unpack_zero)
      rw [lt_iff_of_rank rank?_one (congrArg Distance.rank? hsub)]
      decide
  · obtain rfl := hzero d hd
    by_cases hn : 1 ≤ n.toNat
    · obtain ⟨w, hw, -⟩ := hasValue_toFloat hn
      have hsub := hasValue_sub_zero hasValue_one (unpack_zero_div unpack_zero hw)
      rw [hasValue_one.lt_iff hsub]
      exact lt_irrefl 1
    · obtain rfl := hzero n hn
      decide +kernel

/-- One minus a quotient of counts is less than one. -/
theorem one_sub_lt_one {d n : ℕ} (hd : 1 ≤ d) (hdn : d ≤ n) (hn : n ≤ 2 ^ 53) :
    1.0 - d.toUInt64.toFloat / n.toUInt64.toFloat < 1.0 := by
  have hv := hasValue_count hd (hdn.trans hn)
  have hw := hasValue_count (hd.trans hdn) hn
  have hd' : (1 : ℚ) ≤ d := by exact_mod_cast hd
  have hdn' : (d : ℚ) ≤ n := by exact_mod_cast hdn
  have hn' : (n : ℚ) ≤ 2 ^ 53 := by exact_mod_cast hn
  have hge : (2 : ℚ) ^ (-53 : ℤ) ≤ d / n := by
    rw [le_div_iff₀ hw.pos]
    calc (2 : ℚ) ^ (-53 : ℤ) * n ≤ 2 ^ (-53 : ℤ) * 2 ^ 53 := by gcongr
      _ = 1 := by norm_num
      _ ≤ d := hd'
  have hle : (d : ℚ) / n ≤ 1 := (div_le_one hw.pos).2 hdn'
  obtain ⟨u, hu, hto, hsmall⟩ :=
    exists_quotient hv hw (le_trans (by norm_num) hge) (hle.trans (by norm_num))
  have huge := (hto _ (short_two_zpow _)).1 hge
  have hule := (hto 1 (short_two_zpow 0)).2 hle
  rcases hule.lt_or_eq with hlt | rfl
  · obtain ⟨t, ht, htto⟩ := hasValue_sub hasValue_one hu small_one hsmall hlt
    rw [ht.lt_iff hasValue_one]
    -- The number before one has a mantissa of 53 bits.
    have hbefore : Short (1 - 2 ^ (-53 : ℤ)) := ⟨2 ^ 53 - 1, -53, by decide, by norm_num⟩
    calc t ≤ 1 - 2 ^ (-53 : ℤ) := (htto _ hbefore).2 (sub_le_sub_left huge 1)
      _ < 1 := by norm_num
  · obtain ⟨p, hp, hle⟩ := rank?_sub hasValue_one hu small_one small_one le_rfl
    rw [lt_iff_of_rank hp rank?_one]
    exact hle.trans_lt (by decide)

end Score

namespace Distance

/-! ## Similarities -/

variable {α : Type _} [DecidableEq α]

theorem similarity_self (xs : List α) (threshold : Float) : similarity xs xs threshold = 1.0 :=
  if_pos rfl

/-- No score is above one. -/
theorem not_one_lt_similarity (xs ys : List α) (threshold : Float) :
    ¬ 1.0 < similarity xs ys threshold := by
  rw [similarity]
  split
  · decide +kernel
  · dsimp only
    split
    · decide +kernel
    · exact Score.not_one_lt_sub _ _

/-- One minus the share of a distance in the length is less than one. -/
def Separates (n : Nat) : Prop :=
  ∀ d : Nat, 1 ≤ d → d ≤ n → 1.0 - d.toUInt64.toFloat / n.toUInt64.toFloat < 1.0

theorem separates_of_le {n : Nat} (h : n ≤ 2 ^ 53) : Separates n :=
  fun _ hd hdn => Score.one_sub_lt_one hd hdn h

/-- Only equal lists have the perfect score. -/
theorem similarity_lt_one {xs ys : List α} (hne : xs ≠ ys)
    (h : Separates (max xs.length ys.length)) (threshold : Float) :
    similarity xs ys threshold < 1.0 := by
  rw [similarity, if_neg hne]
  dsimp only
  split
  · decide +kernel
  · rw [bounded_eq]
    have hpos := mt eq_of_distance_eq_zero hne
    have hle := distance_le_max xs ys
    have habove : 1 ≤ above (bound threshold (max xs.length ys.length)) :=
      Nat.le_min.2 ⟨Nat.le_add_left 1 _, by decide⟩
    exact h _ (by omega) (by omega)

end Distance

end Emend
