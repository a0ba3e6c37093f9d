import Emend.Proofs.Text.Blanks
import Emend.Proofs.Text.DocumentLines
/-!
# Words

*Words of a text.*  A run without blanks is a word if a blank or the end of the text follows it
(`words_append`).

*Pieces put together.*  What is put together with a separator comes apart at the separator
again: words at blanks (`words_join`), and pieces at a character that none of them holds
(`splitOn_join`).

*Blank runs folded.*  A text whose blank runs are folded and that is trimmed is its words with
one space between two of them (`trim_foldBlanks`).
-/

namespace Emend

namespace Text

/-! ## The words of a text -/

theorem words_cons {c : Char} (hc : isBlank c) (t : Text) : words (c :: t) = words t := by
  cases t <;> simp [words, hc]

theorem words_trimStart (t : Text) : words (trimStart t) = words t := by
  induction t with
  | nil => rfl
  | cons c t ih =>
      by_cases hc : isBlank c
      · rw [words_cons hc, ← ih]
        exact congrArg words (List.dropWhile_cons_of_pos hc)
      · rw [trimStart_cons hc]

/-- A run without blanks is a word where blanks follow it, or nothing. -/
theorem words_append {word : Text} (hne : word ≠ []) (hsolid : Solid word) {t : Text}
    (hblank : ∀ c, t.head? = some c → isBlank c) : words (word ++ t) = word :: words t := by
  induction word with
  | nil => exact absurd rfl hne
  | cons c word ih =>
      have hc : ¬ isBlank c := hsolid c List.mem_cons_self
      have hrest : Solid word := fun d hd => hsolid d (List.mem_cons_of_mem _ hd)
      cases word with
      | nil =>
          cases t with
          | nil => simp [words, hc]
          | cons d t => simp [words, hc, hblank d rfl]
      | cons d word =>
          have hd : ¬ isBlank d := hrest d List.mem_cons_self
          have hwords := ih (List.cons_ne_nil _ _) hrest
          rw [List.cons_append] at hwords
          simp only [List.cons_append, words, hc, hd, hwords]
          rfl

theorem mem_words {t word : Text} (h : word ∈ words t) : word ≠ [] ∧ Solid word := by
  induction t generalizing word with
  | nil => cases h
  | cons c t ih =>
      by_cases hc : isBlank c
      · rw [words_cons hc] at h
        exact ih h
      · have halone : [c] ≠ [] ∧ Solid [c] := ⟨List.cons_ne_nil _ _, by simpa [Solid] using hc⟩
        cases t with
        | nil =>
            simp only [words, if_neg hc, List.mem_singleton] at h
            exact h ▸ halone
        | cons d t =>
            simp only [words, if_neg hc] at h
            split at h
            · rcases List.mem_cons.1 h with rfl | h
              · exact halone
              · exact ih h
            · split at h
              · rw [List.mem_singleton.1 h]
                exact halone
              · next heq =>
                rcases List.mem_cons.1 h with rfl | h
                · refine ⟨List.cons_ne_nil _ _, List.forall_mem_cons.2 ⟨hc, ?_⟩⟩
                  exact (ih (heq ▸ List.mem_cons_self)).2
                · exact ih (heq ▸ List.mem_cons_of_mem _ h)

theorem words_eq_nil_iff {t : Text} : words t = [] ↔ allBlank t := by
  induction t with
  | nil => simp [words, allBlank]
  | cons c t ih =>
      by_cases hc : isBlank c
      · rw [words_cons hc, ih]
        simp [allBlank, hc]
      · have hne : words (c :: t) ≠ [] := by
          cases t with
          | nil => simp [words, hc]
          | cons d t =>
              simp only [words, if_neg hc]
              split
              · exact List.cons_ne_nil _ _
              · split <;> exact List.cons_ne_nil _ _
        simp [hne, allBlank, hc]

/-! ## Pieces put together -/

theorem words_join {pieces : List Text} (h : ∀ p ∈ pieces, p ≠ [] ∧ Solid p) :
    words (join [' '] pieces) = pieces := by
  induction pieces with
  | nil => rfl
  | cons piece rest ih =>
      obtain ⟨hne, hsolid⟩ := h piece List.mem_cons_self
      have hrest := ih fun p hp => h p (List.mem_cons_of_mem _ hp)
      have hspace : isBlank ' ' := by decide
      by_cases hnil : rest = []
      · subst hnil
        simpa [join, words] using words_append hne hsolid (t := []) (by simp)
      · rw [join_cons _ _ hnil, List.append_assoc, words_append hne hsolid (by simpa using hspace),
          List.singleton_append, words_cons hspace, hrest]

theorem join_append_of_ne_nil (sep : Text) {pieces more : List Text} (h : pieces ≠ [])
    (hmore : more ≠ []) : join sep (pieces ++ more) = join sep pieces ++ sep ++ join sep more := by
  induction pieces with
  | nil => exact absurd rfl h
  | cons piece pieces ih =>
      rw [List.cons_append, join_cons _ _ (by simp [hmore])]
      by_cases hnil : pieces = []
      · subst hnil
        rfl
      · rw [ih hnil, join_cons _ _ hnil]
        simp only [List.append_assoc]

theorem join_words_ne_nil {t : Text} (h : words t ≠ []) : join [' '] (words t) ≠ [] := by
  intro hempty
  have hwords : words (join [' '] (words t)) = words t := words_join fun _ hw => mem_words hw
  rw [hempty] at hwords
  exact h hwords.symm

theorem mem_join {sep : Text} {pieces : List Text} {c : Char} (h : c ∈ join sep pieces) :
    c ∈ sep ∨ ∃ p ∈ pieces, c ∈ p := by
  induction pieces with
  | nil => cases h
  | cons piece rest ih =>
      by_cases hnil : rest = []
      · subst hnil
        exact .inr ⟨piece, List.mem_cons_self, h⟩
      · rw [join_cons _ _ hnil, List.mem_append, List.mem_append] at h
        rcases h with (h | h) | h
        · exact .inr ⟨piece, List.mem_cons_self, h⟩
        · exact .inl h
        · exact (ih h).imp_right fun ⟨p, hp, hc⟩ => ⟨p, List.mem_cons_of_mem _ hp, hc⟩

theorem splitOn_join {sep : Char} {pieces : List Text} (hne : pieces ≠ [])
    (h : ∀ p ∈ pieces, sep ∉ p) : splitOn sep (join [sep] pieces) = pieces := by
  induction pieces with
  | nil => exact absurd rfl hne
  | cons piece rest ih =>
      have hpiece := splitOn_of_not_mem (h piece List.mem_cons_self)
      by_cases hnil : rest = []
      · subst hnil
        exact hpiece
      · rw [join_cons _ _ hnil, List.append_assoc, List.singleton_append, splitOn_append, hpiece,
          ih hnil fun p hp => h p (List.mem_cons_of_mem _ hp)]
        rfl

/-! ## Blank runs folded -/

theorem foldBlanks_of_isBlank {c : Char} (hc : isBlank c) (t : Text) :
    foldBlanks (c :: t) =
      if t.head?.any isBlank then foldBlanks t else ' ' :: foldBlanks t := by
  conv_lhs => unfold foldBlanks
  cases t with
  | nil => simp [foldBlanks, hc]
  | cons d t => by_cases hd : isBlank d <;> simp [hc, hd]

theorem foldBlanks_of_not_isBlank {c : Char} (hc : ¬ isBlank c) (t : Text) :
    foldBlanks (c :: t) = c :: foldBlanks t := by
  conv_lhs => unfold foldBlanks
  exact if_neg hc

theorem trimStart_foldBlanks (t : Text) : trimStart (foldBlanks t) = foldBlanks (trimStart t) := by
  induction t with
  | nil => rfl
  | cons c t ih =>
      by_cases hc : isBlank c
      · have htrim : trimStart (c :: t) = trimStart t := List.dropWhile_cons_of_pos hc
        rw [htrim, ← ih, foldBlanks_of_isBlank hc]
        split
        · rfl
        · exact List.dropWhile_cons_of_pos (by decide)
      · rw [trimStart_cons hc, foldBlanks_of_not_isBlank hc, trimStart_cons hc]

theorem trimEnd_of_not_isBlank {c : Char} (hc : ¬ isBlank c) (t : Text) :
    trimEnd (c :: t) = c :: trimEnd t := by
  rw [trimEnd, dropEndWhile, ← trimEnd]
  split
  · next heq => rw [if_neg hc, heq]
  · rfl

theorem trimEnd_space (t : Text) :
    trimEnd (' ' :: t) = if trimEnd t = [] then [] else ' ' :: trimEnd t := by
  rw [trimEnd, dropEndWhile, ← trimEnd]
  split
  · next heq => rw [if_pos heq, if_pos (by decide)]
  · next hne => rw [if_neg hne]

/-- Folded and trimmed at its end, a text is its words with a space between two of them, and
before the first one if blanks lead it. -/
theorem trimEnd_foldBlanks (t : Text) :
    trimEnd (foldBlanks t) =
      if t.head?.any isBlank && !(words t).isEmpty then ' ' :: join [' '] (words t)
      else join [' '] (words t) := by
  induction t with
  | nil => rfl
  | cons c t ih =>
      by_cases hc : isBlank c
      · rw [foldBlanks_of_isBlank hc, words_cons hc, List.head?_cons, Option.any_some, hc,
          Bool.true_and]
        split
        · next hnext => rw [ih, hnext, Bool.true_and]
        · next hnext =>
          rw [Bool.not_eq_true] at hnext
          rw [hnext, Bool.false_and, if_neg Bool.false_ne_true] at ih
          rw [trimEnd_space, ih]
          cases hwords : words t with
          | nil => rfl
          | cons w ws =>
              rw [← hwords, if_neg (join_words_ne_nil (by rw [hwords]; exact List.cons_ne_nil _ _))]
              simp [hwords]
      · rw [foldBlanks_of_not_isBlank hc, trimEnd_of_not_isBlank hc, ih, List.head?_cons,
          Option.any_some, Bool.eq_false_iff.2 hc, Bool.false_and, if_neg Bool.false_ne_true]
        cases t with
        | nil => simp [words, hc, join]
        | cons d t =>
            by_cases hd : isBlank d
            · cases hwords : words (d :: t) <;> simp [words, hc, hd, hwords, join]
            · have hne : words (d :: t) ≠ [] := by
                simpa [words_eq_nil_iff, allBlank] using fun h => absurd h hd
              cases hwords : words (d :: t) with
              | nil => exact absurd hwords hne
              | cons w ws => cases ws <;> simp [words, hc, hd, hwords, join]

/-- Folded and trimmed, a text is its words with a space between two of them. -/
theorem trim_foldBlanks (t : Text) : trim (foldBlanks t) = join [' '] (words t) := by
  have hhead : (trimStart t).head?.any isBlank = false := by
    cases h : (trimStart t).head? with
    | none => rfl
    | some c =>
        have := List.head?_dropWhile_not isBlank t
        rw [trimStart] at h
        rw [h] at this
        simpa using this
  rw [trim, trimStart_foldBlanks, trimEnd_foldBlanks, hhead, Bool.false_and,
    if_neg Bool.false_ne_true, words_trimStart]

/-- Words that are put together have no blanks around them. -/
theorem trim_join {pieces : List Text} (h : ∀ p ∈ pieces, p ≠ [] ∧ Solid p) :
    trim (join [' '] pieces) = join [' '] pieces := by
  rw [← words_join h, ← trim_foldBlanks, trim_trim, trim_foldBlanks, words_join h]

end Text

end Emend
