import Emend.Proofs.Text.Blanks
/-!
# Lines of documents

The lines of a text that ends in a line feed come before the lines of what is put after
it (`documentLines_append`).  A line in the midst of a text counts as one, up to the blanks
at its end (`IsLine.documentLines`).
-/

namespace Emend

namespace Text

/-! ## Pieces of a text put together -/

theorem splitOn_append (sep : Char) (a b : Text) :
    splitOn sep (a ++ sep :: b) = splitOn sep a ++ splitOn sep b := by
  induction a with
  | nil => simp [splitOn]
  | cons c a ih =>
      rw [List.cons_append, splitOn, splitOn, ih]
      split
      · rfl
      · cases h : splitOn sep a with
        | nil => exact absurd h (splitOn_ne_nil sep a)
        | cons piece pieces => rfl

theorem splitOn_of_not_mem {sep : Char} {t : Text} (h : sep ∉ t) : splitOn sep t = [t] := by
  induction t with
  | nil => rfl
  | cons c t ih =>
      rw [List.mem_cons, not_or] at h
      rw [splitOn, if_neg (Ne.symm h.1), ih h.2]

theorem not_mem_of_mem_splitOn {sep : Char} {t piece : Text} (h : piece ∈ splitOn sep t) :
    sep ∉ piece := by
  induction t generalizing piece with
  | nil =>
      rw [splitOn, List.mem_singleton] at h
      simp [h]
  | cons c t ih =>
      rw [splitOn] at h
      split at h
      · rcases List.mem_cons.1 h with rfl | h
        · simp
        · exact ih h
      · next hc =>
        cases hs : splitOn sep t with
        | nil => exact absurd hs (splitOn_ne_nil sep t)
        | cons first rest =>
            rw [hs] at h ih
            rcases List.mem_cons.1 h with rfl | h
            · rw [List.mem_cons, not_or]
              exact ⟨Ne.symm hc, ih List.mem_cons_self⟩
            · exact ih (List.mem_cons_of_mem _ h)

theorem mem_of_mem_splitOn {sep c : Char} {t piece : Text} (hpiece : piece ∈ splitOn sep t)
    (hc : c ∈ piece) : c ∈ t := by
  induction t generalizing piece with
  | nil =>
      rw [splitOn, List.mem_singleton] at hpiece
      exact absurd hc (by simp [hpiece])
  | cons d t ih =>
      rw [splitOn] at hpiece
      split at hpiece
      · rcases List.mem_cons.1 hpiece with rfl | hpiece
        · cases hc
        · exact List.mem_cons_of_mem _ (ih hpiece hc)
      · cases hs : splitOn sep t with
        | nil => exact absurd hs (splitOn_ne_nil sep t)
        | cons first rest =>
            rw [hs] at hpiece ih
            rcases List.mem_cons.1 hpiece with rfl | hpiece
            · rcases List.mem_cons.1 hc with rfl | hc
              · exact List.mem_cons_self
              · exact List.mem_cons_of_mem _ (ih List.mem_cons_self hc)
            · exact List.mem_cons_of_mem _ (ih (List.mem_cons_of_mem _ hpiece) hc)

/-! ## Lines of documents -/

theorem dropReturn_append (line : Text) : dropReturn (line ++ ['\r']) = line := by
  rw [dropReturn, beforeTail?_append]
  rfl

theorem dropReturn_of_getLast?_ne {line : Text} (h : line.getLast? ≠ some '\r') :
    dropReturn line = line := by
  unfold dropReturn
  cases hr : beforeTail? ['\r'] line with
  | none => rfl
  | some front => exact absurd (by rw [beforeTail?_eq_some hr]; simp) h

theorem dropReturn_of_not_mem {line : Text} (h : '\r' ∉ line) : dropReturn line = line :=
  dropReturn_of_getLast?_ne fun hlast => h (List.mem_of_getLast? hlast)

theorem documentLines_of_lines {t final : Text} {earlier : List Text}
    (h : lines t = earlier ++ [final]) :
    documentLines t = earlier.map dropReturn ++ if final.isEmpty then [] else [final] := by
  simp only [documentLines, h, List.reverse_append, List.reverse_cons, List.reverse_nil,
    List.nil_append, List.cons_append, List.map_reverse, List.reverse_reverse]
  split <;> simp

theorem documentLines_cut (a b : Text) :
    documentLines (a ++ '\n' :: b) = (lines a).map dropReturn ++ documentLines b := by
  obtain ⟨earlier, final, hb⟩ :=
    (List.eq_nil_or_concat (lines b)).resolve_left (splitOn_ne_nil _ b)
  rw [List.concat_eq_append] at hb
  have hlines : lines (a ++ '\n' :: b) = (lines a ++ earlier) ++ [final] := by
    rw [lines, splitOn_append, ← lines, ← lines, hb, List.append_assoc]
  rw [documentLines_of_lines hlines, documentLines_of_lines hb, List.map_append,
    List.append_assoc]

/-- A text that ends in a line feed has all its lines before those of what follows. -/
theorem documentLines_append {a : Text} (h : a.getLast? = some '\n') (b : Text) :
    documentLines (a ++ b) = documentLines a ++ documentLines b := by
  obtain ⟨front, rfl⟩ := List.getLast?_eq_some_iff.1 h
  have hempty : documentLines [] = [] := rfl
  rw [documentLines_cut front [], hempty, List.append_nil, List.append_assoc]
  exact documentLines_cut front b

/-- A line of a text, and what comes before and after it: whole lines, and what a line
feed begins. -/
structure IsLine (before line after : Text) : Prop where
  /-- What comes before ends in a line feed. -/
  starts : before ≠ [] → before.getLast? = some '\n'
  /-- The line holds no line feed. -/
  whole : '\n' ∉ line
  /-- What comes after begins with a line feed. -/
  ends : after ≠ [] → after.head? = some '\n'

/-- The line counts as one, up to blanks at its end. -/
theorem IsLine.documentLines {before line after : Text} (h : IsLine before line after)
    (hne : line ≠ []) :
    ∃ read more, documentLines (before ++ line ++ after) =
        documentLines before ++ read :: more ∧ trim read = trim line := by
  obtain ⟨read, more, heq, htrim⟩ : ∃ read more,
      Text.documentLines (line ++ after) = read :: more ∧ trim read = trim line := by
    have hlines := splitOn_of_not_mem h.whole
    cases after with
    | nil =>
        refine ⟨line, [], ?_, rfl⟩
        have hread := documentLines_of_lines (show Text.lines line = [] ++ [line] from hlines)
        simpa [hne] using hread
    | cons c after =>
        obtain rfl : c = '\n' := by simpa using h.ends
        refine ⟨dropReturn line, Text.documentLines after, ?_, trim_dropReturn line⟩
        rw [documentLines_cut, lines, hlines]
        rfl
  refine ⟨read, more, ?_, htrim⟩
  by_cases hbefore : before = []
  · subst hbefore
    exact heq
  · rw [List.append_assoc, documentLines_append (h.starts hbefore), heq]

end Text

end Emend
