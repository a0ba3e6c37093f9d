import Emend.Proofs.Match.Best
/-!
# Thresholds

With a threshold of one or more a search takes the first part that equals the pattern, and below
it the earliest best one.  A part that equals the pattern has the perfect score, and any other one
has a lower score (`Distance.similarity_lt_one`).  So the first equal part is the earliest best one
(`earliestBest_of_first`), and a lower threshold leaves an exact match where it is.

This takes arithmetic that tells a distance from none (`Distance.Separates`), and for tokens also
runs of which the lengths go around the base (`Tokens.Brackets`).  Both hold for lengths of up to
`2 ^ 53` (`Distance.separates_of_le`, `Tokens.brackets_of_le`).
-/

namespace Emend

/-! ## The first equal candidate -/

section First

variable {ι γ : Type} [LinearOrder ι] {at? : ι → Option γ}

/-- The first candidate of a list that is accepted has none that is accepted before it. -/
theorem exists_first {indices : List ι} (hsorted : indices.Pairwise (· < ·))
    (hall : ∀ i c, at? i = some c → i ∈ indices) {accept : γ → Bool} {c : γ}
    (h : (indices.filterMap at?).find? accept = some c) :
    ∃ i, at? i = some c ∧ accept c = true ∧
      ∀ j d, j < i → at? j = some d → accept d = false := by
  obtain ⟨haccept, before, after, hl, hbefore⟩ := List.find?_eq_some_iff_append.1 h
  obtain ⟨i, hi, hplace⟩ := exists_index hsorted hall hl
  refine ⟨i, hi, haccept, fun j d hlt hd => ?_⟩
  rcases hplace j d hd with ⟨hmem, -⟩ | ⟨-, rfl⟩ | ⟨-, hgt⟩
  · simpa using hbefore d hmem
  · exact absurd hlt (lt_irrefl j)
  · exact absurd hlt (lt_asymm hgt)

/-- The first candidate that equals what is sought is the earliest best one. -/
theorem earliestBest_of_first {α : Type} [DecidableEq α] {sought : List α} {form : γ → List α}
    (hseparates : ∀ j d, at? j = some d →
      Distance.Separates (max sought.length (form d).length))
    {threshold : Float} (hthreshold : threshold < 1.0) {i : ι} {c : γ} (hi : at? i = some c)
    (hequal : form c = sought) (hbefore : ∀ j d, j < i → at? j = some d → form d ≠ sought) :
    EarliestBest at? (fun d => Distance.similarity sought (form d) threshold) threshold i c := by
  have hperfect : ∀ d, form d = sought →
      Distance.similarity sought (form d) threshold = 1.0 := fun d hd => by
    rw [hd, Distance.similarity_self]
  have hbelow : ∀ j d, at? j = some d → form d ≠ sought →
      Distance.similarity sought (form d) threshold < 1.0 := fun j d hd hne =>
    Distance.similarity_lt_one hne.symm (hseparates j d hd) threshold
  refine ⟨hi, ?_, fun j d hd _ => ?_, fun j d hlt hd _ => ?_⟩
  · rw [hperfect c hequal]
    exact Score.meets_one hthreshold
  · rw [hperfect c hequal]
    by_cases heq : form d = sought
    · rw [hperfect d heq]
      exact Score.le_refl Score.number_one
    · exact Score.le_of_lt (hbelow j d hd heq)
  · rw [hperfect c hequal]
    exact hbelow j d hd (hbefore j d hlt hd)

end First

/-! ## Lines -/

/-- A run with the same canonical form is found at every threshold. -/
theorem Lines.findSimilar_of_find {content pattern : Text} {options : MatchOptions}
    (hseparates : ∀ i s, candidate? content pattern i = some s →
      Distance.Separates (max (Text.canonical options.folding pattern).length
        (Text.canonical options.folding (s.text content)).length))
    (hthreshold : options.threshold < 1.0) {m : Match}
    (hfind : find content pattern options = some m) :
    findSimilar content pattern options = some m := by
  unfold find at hfind
  dsimp only at hfind
  split at hfind
  next => cases hfind
  next hpattern =>
    obtain ⟨s, hs, rfl⟩ := Option.map_eq_some_iff.1 hfind
    rw [candidates_eq] at hs
    obtain ⟨i, hi, hequal, hbefore⟩ :=
      exists_first List.pairwise_lt_range (fun _ _ => mem_range_of_candidate?) hs
    have hbest := findSimilar_best content pattern options hthreshold (by simpa using hpattern)
    exact (hbest.some_iff _).2 ⟨i, s, earliestBest_of_first hseparates hthreshold hi
      (beq_iff_eq.1 hequal) (fun j d hlt hd => beq_eq_false_iff_ne.1 (hbefore j d hlt hd)), rfl⟩

/-! ## Tokens -/

namespace Tokens

open Rounding

/-- The lengths of the runs that are compared go from `n` or less to `n` or more. -/
def Brackets (n : Nat) : Prop := fewest n ≤ n ∧ n ≤ most n

/-- A count times a factor near one, as it is before it is truncated. -/
theorem hasValue_factor {n : ℕ} (hpos : 1 ≤ n) (hle : n ≤ 2 ^ 53) {x : Float} {c : ℚ}
    (hx : HasValue x c) (hlow : 1 / 2 ≤ c) (hhigh : c ≤ 2) :
    ∃ u, HasValue (n.toUInt64.toFloat * x) u ∧ RoundsTo (n * c) u := by
  have hge : (1 : ℚ) ≤ n := by exact_mod_cast hpos
  have hle' : (n : ℚ) ≤ 2 ^ 53 := by exact_mod_cast hle
  refine hasValue_mul (hasValue_count hpos hle) hx ⟨?_, ?_⟩
  · calc (2 : ℚ) ^ (-200 : ℤ) ≤ 1 * (1 / 2) := by norm_num
      _ ≤ n * c := by gcongr
  · calc n * c ≤ 2 ^ 53 * 2 := by gcongr
      _ ≤ 2 ^ (200 : ℤ) := by norm_num

theorem brackets_of_le {n : Nat} (hpos : 1 ≤ n) (hle : n ≤ 2 ^ 53) : Brackets n := by
  have hn : (0 : ℚ) ≤ n := by positivity
  -- The doubles for four fifths and for six fifths are not exact, but they lie on either side.
  have hless : HasValue 0.8 ((7205759403792794 : ℕ) * 2 ^ (-53 : ℤ)) :=
    hasValue_of_rank? ⟨by decide, by decide, by decide, by decide⟩ (by decide +kernel)
  have hmore : HasValue 1.2 ((5404319552844595 : ℕ) * 2 ^ (-52 : ℤ)) :=
    hasValue_of_rank? ⟨by decide, by decide, by decide, by decide⟩ (by decide +kernel)
  obtain ⟨u, hu, huto⟩ := hasValue_factor hpos hle hless (by norm_num) (by norm_num)
  obtain ⟨v, hv, hvto⟩ := hasValue_factor hpos hle hmore (by norm_num) (by norm_num)
  have hule := (huto n (short_count hle)).2 (mul_le_of_le_one_right hn (by norm_num))
  have hvge := (hvto n (short_count hle)).1 (le_mul_of_one_le_right hn (by norm_num))
  exact ⟨max_le (toNat_toUInt64_le hu hule) hpos, le_toNat_toUInt64 hv (by omega) hvge⟩

theorem length_of_run? {low high : Nat} (hlow : 1 ≤ low) {tokens : List Token} {p : ℕ ×ₗ ℕ}
    {part : Span × List Text} (h : run? low high tokens p = some part) :
    part.2.length = (ofLex p).2 ∧ low ≤ (ofLex p).2 ∧ (ofLex p).2 ≤ high := by
  unfold run? at h
  dsimp only at h
  split at h
  next hk =>
    obtain ⟨first, -, h⟩ := Option.bind_eq_some_iff.1 h
    obtain ⟨last, hlast, h⟩ := Option.bind_eq_some_iff.1 h
    obtain ⟨hlength, -⟩ := List.getElem?_eq_some_iff.1 hlast
    cases h
    rw [List.length_map, List.length_take, List.length_drop]
    omega
  next => cases h

/-- The bounds only tell how many tokens a run may have. -/
theorem run?_bounds {low high low' high' : Nat} {tokens : List Token} {p : ℕ ×ₗ ℕ}
    {part : Span × List Text} (h : run? low high tokens p = some part)
    (hlow : low' ≤ (ofLex p).2) (hhigh : (ofLex p).2 ≤ high') :
    run? low' high' tokens p = some part := by
  unfold run? at h ⊢
  dsimp only at h ⊢
  split at h
  next => rwa [if_pos ⟨hlow, hhigh⟩]
  next => cases h

theorem one_le_base {pattern : Text} {options : MatchOptions}
    (hpattern : ofText options.folding pattern ≠ []) : 1 ≤ base pattern options := by
  unfold base
  split
  · assumption
  · exact List.length_pos_iff.2 hpattern

/-- At a threshold of one or more the search finds the first run of as many tokens as the base
says that equals those of the pattern. -/
theorem exists_of_find (content pattern : Text) (options : MatchOptions)
    (hthreshold : 1.0 ≤ options.threshold) {m : Match}
    (h : find content pattern options = some m) :
    ofText options.folding pattern ≠ [] ∧ ∃ i part,
      run? (base pattern options) (base pattern options) (ofText options.folding content) i =
        some part ∧
      part.2 = (ofText options.folding pattern).map Token.text ∧
      (∀ j d, j < i →
        run? (base pattern options) (base pattern options) (ofText options.folding content) j =
          some d → d.2 ≠ (ofText options.folding pattern).map Token.text) ∧
      m = Match.ofSpan content part.1 := by
  have hpattern : ofText options.folding pattern ≠ [] := by
    intro hnil
    rw [find, hnil] at h
    cases h
  rw [find, if_neg (by simpa using hpattern), List.length_map] at h
  dsimp only at h
  rw [if_pos hthreshold] at h
  obtain ⟨w, hw, rfl⟩ := Option.map_eq_some_iff.1 h
  have hpart : ((windows (base pattern options) (base pattern options)
      (ofText options.folding content)).map Window.part).find?
        (fun part => part.2 == (ofText options.folding pattern).map Token.text) =
      some w.part := by
    rw [List.find?_map]
    exact congrArg (Option.map Window.part) hw
  rw [windows_eq (one_le_base hpattern)] at hpart
  obtain ⟨i, hi, hequal, hbefore⟩ :=
    exists_first (runIndices_sorted _ _ _) (fun _ _ => mem_runIndices) hpart
  exact ⟨hpattern, i, w.part, hi, beq_iff_eq.1 hequal,
    fun j d hlt hd => beq_eq_false_iff_ne.1 (hbefore j d hlt hd), rfl⟩

/-- A run that equals the tokens of the pattern is found at every threshold. -/
theorem find_of_exact {content pattern : Text} {options : MatchOptions} {high low : Float}
    (hhigh : 1.0 ≤ high) (hlow : low < 1.0)
    (hseparates : ∀ i part, candidate? content pattern options i = some part →
      Distance.Separates (max (ofText options.folding pattern).length part.2.length))
    (hbrackets : Brackets (base pattern options)) {m : Match}
    (hfind : find content pattern { options with threshold := high } = some m) :
    find content pattern { options with threshold := low } = some m := by
  obtain ⟨hpattern, i, part, hi, hequal, hbefore, rfl⟩ :=
    exists_of_find content pattern { options with threshold := high } hhigh hfind
  have hbase := one_le_base hpattern
  have hbest := find_best content pattern { options with threshold := low } hlow hpattern
  have hi' : candidate? content pattern options i = some part := by
    obtain ⟨-, hge, hle⟩ := length_of_run? hbase hi
    exact run?_bounds hi (hbrackets.1.trans hge) (hle.trans hbrackets.2)
  refine (hbest.some_iff _).2 ⟨i, part, earliestBest_of_first ?_ hlow hi' hequal ?_, rfl⟩
  · intro j d hd
    rw [List.length_map]
    exact hseparates j d hd
  · -- A run that equals the tokens of the pattern has as many tokens as the first one.
    intro j d hlt hd heq
    obtain ⟨hlength, hge, hle⟩ := length_of_run? hbase hi
    obtain ⟨hlength', -, -⟩ := length_of_run? (Nat.le_max_right _ 1) hd
    rw [heq, ← hequal, hlength] at hlength'
    exact hbefore j d hlt (run?_bounds hd (hlength' ▸ hge) (hlength' ▸ hle)) heq

end Tokens

/-! ## Lower thresholds -/

/-- A threshold below one leaves a match where it is that is found at a threshold of one or more:
for lines, which are then searched for the same canonical form, and for tokens. -/
theorem lower_threshold_keeps_exact_match (content pattern : Text) (options : MatchOptions)
    {high low : Float} (hhigh : 1.0 ≤ high) (hlow : low < 1.0) :
    Lines.findSimilar content pattern { options with threshold := high } =
        Lines.find content pattern options ∧
      ((∀ i s, Lines.candidate? content pattern i = some s →
          Distance.Separates (max (Text.canonical options.folding pattern).length
            (Text.canonical options.folding (s.text content)).length)) →
        ∀ m, Lines.findSimilar content pattern { options with threshold := high } = some m →
          Lines.findSimilar content pattern { options with threshold := low } = some m) ∧
      ((∀ i part, Tokens.candidate? content pattern options i = some part →
          Distance.Separates (max (Tokens.ofText options.folding pattern).length
            part.2.length)) →
        Tokens.Brackets (Tokens.base pattern options) →
        ∀ m, Tokens.find content pattern { options with threshold := high } = some m →
          Tokens.find content pattern { options with threshold := low } = some m) := by
  have hsame : Lines.findSimilar content pattern { options with threshold := high } =
      Lines.find content pattern options := if_pos hhigh
  refine ⟨hsame, fun hseparates m hm => ?_, fun hseparates hbrackets m hm => ?_⟩
  · exact @Lines.findSimilar_of_find content pattern { options with threshold := low } hseparates
      hlow m (hsame.symm.trans hm)
  · exact Tokens.find_of_exact hhigh hlow hseparates hbrackets hm

/-- The second line is the pattern, and so is the second word. -/
theorem lower_threshold_keeps_second_line :
    Lines.findSimilar "b\nc".toList "c".toList { threshold := 0.5 } =
        some ⟨⟨2, 3⟩, ['c']⟩ ∧
      Tokens.find "b\nc".toList "c".toList { threshold := 0.5 } = some ⟨⟨2, 3⟩, ['c']⟩ := by
  obtain ⟨-, hlines, htokens⟩ := lower_threshold_keeps_exact_match "b\nc".toList "c".toList {}
    (show (1.0 : Float) ≤ 1.0 by decide +kernel) (show (0.5 : Float) < 1.0 by decide +kernel)
  constructor
  · refine hlines (fun i s hs => ?_) _ (by decide +kernel)
    have hi := Lines.mem_range_of_candidate? hs
    obtain rfl | rfl : i = 0 ∨ i = 1 := by
      have : i < 2 := List.mem_range.1 hi
      omega
    all_goals
      cases hs
      exact Distance.separates_of_le (by decide +kernel)
  · refine htokens (fun i part hpart => ?_)
      (Tokens.brackets_of_le (by decide +kernel) (by decide +kernel)) _ (by decide +kernel)
    obtain ⟨hlength, -, hle⟩ := Tokens.length_of_run? (Nat.le_max_right _ 1) hpart
    have hmost : Tokens.most (Tokens.base "c".toList {}) = 1 := by decide +kernel
    have hsought : (Tokens.ofText ({} : MatchOptions).folding "c".toList).length = 1 := by
      decide +kernel
    exact Distance.separates_of_le (by omega)

end Emend
