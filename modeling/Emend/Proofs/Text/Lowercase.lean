import Emend.Proofs.Text.Words
import Emend.Proofs.Unicode.Ascii
import Emend.Unicode.Case
/-!
# Lower-case forms of lines

The lower-case form of a text is made character by character, but for the capital sigma, of which
the form depends on the letters around it.  A line feed is no letter and is not passed over
when letters are sought, so lines are lower-cased one by one (`lowercase_join`), and there is no
line feed in the form of a line (`not_mem_lowercase`).
-/

namespace Emend

theorem leadsToCased_append_lineFeed (t rest : Text) :
    leadsToCased (t ++ '\n' :: rest) = leadsToCased t := by
  have hkept : caseIgnorableChars.contains '\n' = false :=
    Bool.eq_false_iff.2 fun h => absurd ((Recent.contains_caseIgnorable (by decide)).1 h) (by decide)
  have huncased : casedChars.contains '\n' = false :=
    Bool.eq_false_iff.2 fun h => absurd ((Recent.contains_cased (by decide)).1 h) (by decide)
  unfold leadsToCased
  rw [List.dropWhile_append]
  cases hdrop : t.dropWhile caseIgnorableChars.contains with
  | nil => simp [hkept, huncased]
  | cons c t => rfl

/-- What comes before the line of a character does not change its form. -/
theorem lowercaseFrom_append_lineFeed (earlier before t : Text) :
    lowercaseFrom (earlier ++ '\n' :: before) t = lowercaseFrom earlier t := by
  induction t generalizing earlier with
  | nil => rfl
  | cons c t ih =>
      have hrest := ih (c :: earlier)
      rw [List.cons_append] at hrest
      rw [lowercaseFrom, hrest, leadsToCased_append_lineFeed, lowercaseFrom]

theorem lowercaseFrom_line (earlier line rest : Text) :
    lowercaseFrom earlier (line ++ '\n' :: rest) =
      lowercaseFrom earlier line ++ '\n' :: Text.lowercase rest := by
  induction line generalizing earlier with
  | nil =>
      have hrest := lowercaseFrom_append_lineFeed [] earlier rest
      exact congrArg ('\n' :: ·) hrest
  | cons c line ih =>
      rw [List.cons_append, lowercaseFrom, ih, leadsToCased_append_lineFeed, lowercaseFrom,
        List.append_assoc]

namespace Text

/-- Lines are lower-cased one by one. -/
theorem lowercase_join (rows : List Text) :
    lowercase (join ['\n'] rows) = join ['\n'] (rows.map lowercase) := by
  induction rows with
  | nil => rfl
  | cons row rows ih =>
      by_cases hnil : rows = []
      · subst hnil
        rfl
      · rw [join_cons _ _ hnil, List.map_cons, join_cons _ _ (by simpa using hnil), ← ih,
          List.append_assoc, List.append_assoc, List.singleton_append, List.singleton_append]
        exact lowercaseFrom_line [] row _

end Text

/-! ## Single characters -/

theorem moveBy_ne {rows : List CaseRow} {n k : Nat} (hk : k < n)
    (hrows : ∀ r ∈ rows, (k : Int) < r.first + r.shift) : moveBy rows n ≠ k := by
  induction rows with
  | nil => exact Nat.ne_of_gt hk
  | cons r rows ih =>
      obtain ⟨hr, hrest⟩ := List.forall_mem_cons.1 hrows
      rw [moveBy]
      split
      · next hcovers =>
        simp only [CaseRow.covers, Bool.and_eq_true, decide_eq_true_eq] at hcovers
        rw [CaseRow.move]
        omega
      · exact ih hrest

theorem not_mem_lowerChar {c : Char} (hc : c ≠ '\n') : '\n' ∉ lowerChar c := by
  unfold lowerChar
  split
  · rw [List.mem_singleton]
    unfold Char.toLower
    split
    · next hsmall hupper =>
      intro heq
      have hnat := congrArg Char.toNat heq
      have hA : 'A'.val.toNat = 65 := rfl
      have hZ : 'Z'.val.toNat = 90 := rfl
      simp only [UInt32.le_iff_toNat_le, ge_iff_le, Char.toNat, UInt32.toNat_add] at hupper hnat
      have hshift : ('a'.val - 'A'.val).toNat = 32 := rfl
      have hfeed : '\n'.val.toNat = 10 := rfl
      omega
    · exact Ne.symm hc
  split
  · decide
  · next hlarge hdot =>
    have hne : moveBy lowerRows c.toNat ≠ 10 := moveBy_ne (by omega) (by decide +kernel)
    generalize moveBy lowerRows c.toNat = k at hne
    rw [List.mem_singleton]
    by_cases hvalid : k.isValidChar
    · have hk : (Char.ofNat k).toNat = k := by
        rw [Char.ofNat, dif_pos hvalid]
        rfl
      exact fun heq => hne (by rw [← hk, ← heq]; rfl)
    · have hk : Char.ofNat k = '\x00' := dif_neg hvalid
      rw [hk]
      decide

theorem not_mem_lowercaseFrom (earlier : Text) {t : Text} (h : '\n' ∉ t) :
    '\n' ∉ lowercaseFrom earlier t := by
  induction t generalizing earlier with
  | nil => exact h
  | cons c t ih =>
      rw [List.mem_cons, not_or] at h
      rw [lowercaseFrom, List.mem_append, not_or]
      refine ⟨?_, ih _ h.2⟩
      split
      · split <;> decide
      · exact not_mem_lowerChar (Ne.symm h.1)

theorem Text.not_mem_lowercase {t : Text} (h : '\n' ∉ t) : '\n' ∉ t.lowercase :=
  not_mem_lowercaseFrom [] h

end Emend
