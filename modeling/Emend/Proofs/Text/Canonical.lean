import Emend.Proofs.Text.Words
import Emend.Text.Canonical
/-!
# What the canonical form tells apart

The atoms of a line are its operators, each alone, and its longest runs of characters that are
neither blank nor operators (`atoms`).  The canonical form of a line is its atoms with a space
between two of them (`canonicalLine_eq`), and the atoms come back from it.

So two texts have the same canonical form exactly if they have the same atoms line by line
(`canonical_eq_iff`): how the atoms are spaced and how the lines end does not show, and nothing
else is lost.
-/

namespace Emend

namespace Text

/-! ## Atoms -/

/-- The characters of runs. -/
def isPlain (c : Char) : Bool := !isBlank c && !isOperator c

/-- The operators of a line and its longest runs of other characters, in order. -/
def atoms : Text → List Text
  | [] => []
  | c :: t =>
    if isBlank c then atoms t
    else if isOperator c then [c] :: atoms t
    else (c :: t.takeWhile isPlain) :: atoms (t.dropWhile isPlain)
  termination_by t => t.length
  decreasing_by
    · exact Nat.lt_succ_self _
    · exact Nat.lt_succ_self _
    · exact Nat.lt_succ_of_le (List.dropWhile_suffix _).length_le

theorem not_isBlank_of_isOperator {c : Char} (h : isOperator c) : ¬ isBlank c := by
  simp only [isOperator, Bool.or_eq_true, beq_iff_eq] at h
  rcases h with (((((((rfl | rfl) | rfl) | rfl) | rfl) | rfl) | rfl) | rfl) | rfl <;> decide

theorem isPlain_iff {c : Char} : isPlain c ↔ ¬ isBlank c ∧ ¬ isOperator c := by
  simp [isPlain]

theorem mem_atoms {t atom : Text} (h : atom ∈ atoms t) : atom ≠ [] ∧ Solid atom := by
  fun_induction atoms t with
  | case1 => cases h
  | case2 c t hc ih => exact ih h
  | case3 c t hc hop ih =>
      rcases List.mem_cons.1 h with rfl | h
      · exact ⟨List.cons_ne_nil _ _, by simpa [Solid] using hc⟩
      · exact ih h
  | case4 c t hc hop ih =>
      rcases List.mem_cons.1 h with rfl | h
      · refine ⟨List.cons_ne_nil _ _, List.forall_mem_cons.2 ⟨hc, fun d hd => ?_⟩⟩
        exact (isPlain_iff.1 (List.mem_takeWhile_imp hd)).1
      · exact ih h

theorem atoms_eq_nil_iff {t : Text} : atoms t = [] ↔ allBlank t := by
  fun_induction atoms t with
  | case1 => simp [allBlank]
  | case2 c t hc ih => simp [ih, allBlank, hc]
  | case3 c t hc hop => simp [allBlank, hc]
  | case4 c t hc hop => simp [allBlank, hc]

/-! ## Operators between spaces -/

theorem padOperators_cons (c : Char) (t : Text) :
    padOperators (c :: t) = (if isOperator c then [' ', c, ' '] else [c]) ++ padOperators t :=
  List.flatMap_cons

theorem padOperators_of_plain {run : Text} (h : ∀ c ∈ run, ¬ isOperator c) (t : Text) :
    padOperators (run ++ t) = run ++ padOperators t := by
  induction run with
  | nil => rfl
  | cons c run ih =>
      rw [List.cons_append, padOperators_cons, if_neg (h c List.mem_cons_self),
        ih fun d hd => h d (List.mem_cons_of_mem _ hd)]
      rfl

/-- What ends a run is a blank or an operator, which has a space before it. -/
theorem isBlank_of_head?_padOperators {t : Text} (h : ∀ c, t.head? = some c → ¬ isPlain c)
    (d : Char) (hd : (padOperators t).head? = some d) : isBlank d := by
  cases t with
  | nil => cases hd
  | cons c t =>
      rw [padOperators_cons] at hd
      split at hd
      · cases hd
        decide
      · next hop =>
        cases hd
        by_contra hblank
        exact h d rfl (isPlain_iff.2 ⟨hblank, hop⟩)

/-- With its operators between spaces, a line has its atoms as its words. -/
theorem words_padOperators (t : Text) : words (padOperators t) = atoms t := by
  have hspace : isBlank ' ' := by decide
  fun_induction atoms t with
  | case1 => rfl
  | case2 c t hc ih =>
      have hop : ¬ isOperator c := fun hop => not_isBlank_of_isOperator hop hc
      rw [padOperators_cons, if_neg hop, List.singleton_append, words_cons hc, ih]
  | case3 c t hc hop ih =>
      have hsolid : Solid [c] := by simpa [Solid] using hc
      have hwords := words_append (List.cons_ne_nil c []) hsolid (t := ' ' :: padOperators t)
        (by simpa using hspace)
      rw [words_cons hspace, ih] at hwords
      rw [padOperators_cons, if_pos hop]
      exact (words_cons hspace _).trans hwords
  | case4 c t hc hop ih =>
      have hplain : ∀ d ∈ t.takeWhile isPlain, isPlain d := fun d hd => List.mem_takeWhile_imp hd
      have hsolid : Solid (c :: t.takeWhile isPlain) :=
        List.forall_mem_cons.2 ⟨hc, fun d hd => (isPlain_iff.1 (hplain d hd)).1⟩
      have hpad : padOperators (c :: t) =
          (c :: t.takeWhile isPlain) ++ padOperators (t.dropWhile isPlain) := by
        rw [← padOperators_of_plain, List.cons_append, List.takeWhile_append_dropWhile]
        exact List.forall_mem_cons.2 ⟨hop, fun d hd => (isPlain_iff.1 (hplain d hd)).2⟩
      have hnext : ∀ d, (t.dropWhile isPlain).head? = some d → ¬ isPlain d := by
        intro d hd
        have := List.head?_dropWhile_not isPlain t
        simpa [hd] using this
      rw [hpad, words_append (List.cons_ne_nil _ _) hsolid (isBlank_of_head?_padOperators hnext),
        ih]

/-! ## Canonical forms -/

/-- The canonical form of a line is its atoms with a space between two of them. -/
theorem canonicalLine_eq (line : Text) : canonicalLine line = join [' '] (atoms line) := by
  rw [canonicalLine, trim_foldBlanks, words_padOperators]

/-- The atoms of a line come back from its canonical form. -/
theorem words_canonicalLine (line : Text) : words (canonicalLine line) = atoms line := by
  rw [canonicalLine_eq, words_join fun _ h => mem_atoms h]

theorem canonicalLine_eq_nil_iff {line : Text} : canonicalLine line = [] ↔ allBlank line := by
  rw [← atoms_eq_nil_iff, ← words_canonicalLine]
  constructor
  · intro h
    rw [h]
    rfl
  · intro h
    rw [canonicalLine_eq, ← words_canonicalLine, h]
    rfl

theorem not_mem_canonicalLine (line : Text) : '\n' ∉ canonicalLine line := by
  rw [canonicalLine_eq]
  intro h
  rcases mem_join h with h | ⟨atom, hatom, h⟩
  · exact absurd h (by decide)
  · exact (mem_atoms hatom).2.not_mem (by decide) h

/-- The lines of a text that count: all of them, or those that are not blank. -/
def countedLines (ignoreEmptyLines : Bool) (t : Text) : List Text :=
  let all := lines (LineEnding.normalize t)
  if ignoreEmptyLines then all.filter fun line => !allBlank line else all

theorem canonical_eq (ignoreEmptyLines : Bool) (t : Text) :
    canonical { ignoreComments := false, ignoreEmptyLines, caseSensitive := true } t =
      join ['\n'] ((countedLines ignoreEmptyLines t).map canonicalLine) := by
  cases ignoreEmptyLines with
  | false => rfl
  | true =>
      have hfilter : (fun line => !(canonicalLine line).isEmpty) = fun line => !allBlank line := by
        funext line
        rw [Bool.eq_iff_iff]
        simp [canonicalLine_eq_nil_iff]
      simp only [canonical, countedLines, List.filter_map, Function.comp_def, hfilter]
      rfl

/-- The canonical forms of the lines that count come back from the form of the text. -/
theorem splitOn_canonical (ignoreEmptyLines : Bool) (t : Text) :
    (splitOn '\n' (canonical
        { ignoreComments := false, ignoreEmptyLines, caseSensitive := true } t)).filter
        (fun line => !ignoreEmptyLines || !line.isEmpty) =
      (countedLines ignoreEmptyLines t).map canonicalLine := by
  rw [canonical_eq]
  by_cases hnil : (countedLines ignoreEmptyLines t).map canonicalLine = []
  · rw [hnil]
    cases ignoreEmptyLines with
    | false => exact absurd (List.map_eq_nil_iff.1 hnil) (splitOn_ne_nil _ _)
    | true => rfl
  · have hfeed : ∀ line ∈ (countedLines ignoreEmptyLines t).map canonicalLine, '\n' ∉ line := by
      intro form hform
      obtain ⟨line, -, rfl⟩ := List.mem_map.1 hform
      exact not_mem_canonicalLine line
    rw [splitOn_join hnil hfeed, List.filter_eq_self]
    intro form hform
    obtain ⟨line, hline, rfl⟩ := List.mem_map.1 hform
    cases ignoreEmptyLines with
    | false => rfl
    | true =>
        have hkept : allBlank line = false := by simpa using (List.mem_filter.1 hline).2
        have hne : canonicalLine line ≠ [] := by simp [canonicalLine_eq_nil_iff, hkept]
        simpa using hne

/-- Where comments and case count, two texts have the same canonical form exactly if they have
equally many lines that count, and in each of them the same atoms. -/
theorem canonical_eq_iff (ignoreEmptyLines : Bool) (t u : Text) :
    canonical { ignoreComments := false, ignoreEmptyLines, caseSensitive := true } t =
        canonical { ignoreComments := false, ignoreEmptyLines, caseSensitive := true } u ↔
      (countedLines ignoreEmptyLines t).map atoms = (countedLines ignoreEmptyLines u).map atoms := by
  have hwords : words ∘ canonicalLine = atoms := funext words_canonicalLine
  have hjoin : join [' '] ∘ atoms = canonicalLine := funext fun line => (canonicalLine_eq line).symm
  constructor
  · intro h
    have hforms := splitOn_canonical ignoreEmptyLines t
    rw [h, splitOn_canonical] at hforms
    simpa only [List.map_map, hwords] using congrArg (List.map words) hforms.symm
  · intro h
    have hforms := congrArg (List.map (join [' '])) h
    rw [List.map_map, List.map_map, hjoin] at hforms
    rw [canonical_eq, canonical_eq, hforms]

end Text

end Emend
