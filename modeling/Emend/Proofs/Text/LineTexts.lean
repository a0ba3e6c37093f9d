import Emend.Proofs.Text.Endings
import Emend.Proofs.Text.Words
/-!
# The texts of lines

The texts of the lines of a content are what it has at the spans of its lines
(`lineTexts`): the pieces between its line feeds, without the carriage return that may end a
piece (`lineTexts_eq`).

*Cuts.*  Where a content is cut at the end of a line, in either style, the lines of the first
part come before those of the second part (`lineTexts_terminated`).  Before a line come the
lines before it, each with its line feed (`ended`, `lines_cut`), and after it the lines after it
(`begun`).

*Numbers.*  There is one line more than there are line feeds (`length_lines`), and the line at an
offset is told by the line feeds before it (`lineNumberAt_size`).

*Spans.*  The span of a line starts after the lines before it and ends with its text
(`lineSpans_getElem?`).

*Carriage returns.*  If each of them comes right before a line feed, no line has one in its
text, and what follows a line is nothing or the end of a line (`Paired`, `exists_after`).
-/

namespace Emend

namespace LineEnding

theorem not_mem_normalize (t : Text) : '\r' ∉ normalize t := by
  fun_induction normalize t with
  | case1 => simp
  | case2 t ih => simpa using ih
  | case3 t h ih => simpa using ih
  | case4 c t h1 h2 ih => simpa [Ne.symm h2] using ih

/-- Each carriage return comes right before a line feed. -/
def Paired (t : Text) : Prop :=
  ∀ before after, t = before ++ '\r' :: after → after.head? = some '\n'

theorem paired_nil : Paired [] := by simp [Paired]

theorem paired_cons_iff {c : Char} {t : Text} :
    Paired (c :: t) ↔ (c = '\r' → t.head? = some '\n') ∧ Paired t := by
  constructor
  · exact fun h => ⟨fun hc => h [] t (by rw [hc]; rfl),
      fun before after ht => h (c :: before) after (by rw [ht]; rfl)⟩
  · rintro ⟨hfirst, hrest⟩ before after ht
    cases before with
    | nil =>
        obtain ⟨rfl, rfl⟩ := List.cons.inj ht
        exact hfirst rfl
    | cons _ before => exact hrest before after (List.cons.inj ht).2

instance decidablePaired : (t : Text) → Decidable (Paired t)
  | [] => .isTrue paired_nil
  | _ :: t =>
    have := decidablePaired t
    decidable_of_iff _ paired_cons_iff.symm

/-- What is encoded ends with no carriage return unless the text does. -/
theorem getLast?_encode_ne (ending : LineEnding) {t : Text} (h : '\r' ∉ t) :
    (ending.encode t).getLast? ≠ some '\r' := by
  rcases List.eq_nil_or_concat t with rfl | ⟨front, c, rfl⟩
  · simp [encode, Text.replaceChar]
  · rw [List.concat_eq_append] at h ⊢
    rw [encode_append]
    by_cases hc : c = '\n'
    · subst hc
      cases ending <;> simp [terminator]
    · have hreturn : c ≠ '\r' := fun hc => h (by simp [hc])
      simp [encode_of_not_mem ending (show '\n' ∉ [c] by simpa using Ne.symm hc), hreturn]

end LineEnding

namespace Text

open LineEnding

/-! ## Cuts -/

/-- Lines, each with a line feed after it. -/
def ended (rows : List Text) : Text := rows.flatMap (· ++ ['\n'])

theorem ended_cons (row : Text) (rows : List Text) :
    ended (row :: rows) = row ++ ['\n'] ++ ended rows := List.flatMap_cons

theorem getLast?_ended {rows : List Text} (h : rows ≠ []) : (ended rows).getLast? = some '\n' := by
  rcases List.eq_nil_or_concat rows with rfl | ⟨front, row, rfl⟩
  · exact absurd rfl h
  · simp [ended]

theorem join_append (rows : List Text) {rest : List Text} (h : rest ≠ []) :
    join ['\n'] (rows ++ rest) = ended rows ++ join ['\n'] rest := by
  induction rows with
  | nil => rfl
  | cons row rows ih =>
      rw [List.cons_append, join_cons _ _ (by simp [h]), ih, ended_cons]
      simp only [List.append_assoc]

theorem lines_ended {rows : List Text} (h : ∀ row ∈ rows, '\n' ∉ row) (t : Text) :
    lines (ended rows ++ t) = rows ++ lines t := by
  induction rows with
  | nil => rfl
  | cons row rows ih =>
      obtain ⟨hrow, hrows⟩ := List.forall_mem_cons.1 h
      rw [ended_cons, List.append_assoc, List.append_assoc, List.singleton_append, lines,
        splitOn_append, splitOn_of_not_mem hrow, ← lines, ih hrows]
      rfl

theorem lines_append_of_not_mem {lead : Text} (h : '\n' ∉ lead) (t : Text) :
    ∃ tail rest, lines (lead ++ t) = (lead ++ tail) :: rest := by
  induction lead with
  | nil =>
      obtain ⟨tail, rest, hlines⟩ := List.exists_cons_of_ne_nil (splitOn_ne_nil '\n' t)
      exact ⟨tail, rest, hlines⟩
  | cons c lead ih =>
      rw [List.mem_cons, not_or] at h
      obtain ⟨tail, rest, hlines⟩ := ih h.2
      refine ⟨tail, rest, ?_⟩
      rw [lines] at hlines
      rw [List.cons_append, lines, splitOn, if_neg (Ne.symm h.1), hlines]
      rfl

/-- A text is its lines before a line, with their line feeds, and the rest of the lines. -/
theorem lines_cut {t : Text} {n : Nat} (h : n < (lines t).length) :
    t = ended ((lines t).take n) ++ join ['\n'] ((lines t).drop n) := by
  have hrest : (lines t).drop n ≠ [] := by simpa using h
  rw [← join_append _ hrest, List.take_append_drop, lines, join_splitOn]

/-- A text ends with a last line, which may be empty. -/
theorem exists_last (t : Text) : ∃ rows last, t = ended rows ++ last ∧ lines t = rows ++ [last] ∧
    (∀ row ∈ rows, '\n' ∉ row) ∧ '\n' ∉ last := by
  obtain ⟨rows, last, hlines⟩ :=
    (List.eq_nil_or_concat (lines t)).resolve_left (splitOn_ne_nil _ t)
  rw [List.concat_eq_append] at hlines
  have hfeed : ∀ row ∈ rows ++ [last], '\n' ∉ row := fun row hrow =>
    not_mem_of_mem_lines (hlines ▸ hrow)
  refine ⟨rows, last, ?_, hlines, fun row hrow => hfeed row (by simp [hrow]),
    hfeed last (by simp)⟩
  have hjoin := join_splitOn '\n' t
  rw [← lines, hlines, join_append _ (by simp)] at hjoin
  exact hjoin.symm

/-- Lines, each with a line feed before it. -/
def begun (rows : List Text) : Text := rows.flatMap ('\n' :: ·)

theorem join_begun (row : Text) (rows : List Text) :
    join ['\n'] (row :: rows) = row ++ begun rows := by
  induction rows generalizing row with
  | nil => simp [join, begun]
  | cons next rows ih =>
      rw [join_cons _ _ (List.cons_ne_nil _ _), ih, begun, begun, List.flatMap_cons]
      simp

theorem drop_take_succ {rows : List Text} {i j : Nat} (hle : i ≤ j) (hj : j < rows.length) :
    (rows.take (j + 1)).drop i = (rows.take j).drop i ++ [rows[j]] := by
  rw [List.take_succ_eq_append_getElem hj, List.drop_append_of_le_length]
  rw [List.length_take]
  omega

/-! ## Numbers of lines -/

theorem count_ended {rows : List Text} (h : ∀ row ∈ rows, '\n' ∉ row) :
    (ended rows).count '\n' = rows.length := by
  induction rows with
  | nil => rfl
  | cons row rows ih =>
      obtain ⟨hrow, hrows⟩ := List.forall_mem_cons.1 h
      rw [ended_cons, List.count_append, List.count_append, ih hrows,
        List.count_eq_zero.2 hrow, List.count_singleton_self, List.length_cons]
      omega

theorem count_ended_take {t : Text} {n : Nat} (h : n ≤ (lines t).length) :
    (ended ((lines t).take n)).count '\n' = n := by
  rw [count_ended fun row hrow => not_mem_of_mem_lines (List.mem_of_mem_take hrow),
    List.length_take_of_le h]

theorem length_lines (t : Text) : (lines t).length = t.count '\n' + 1 := by
  obtain ⟨rows, last, rfl, hlines, hrows, hlast⟩ := exists_last t
  rw [hlines, List.count_append, count_ended hrows, List.count_eq_zero.2 hlast,
    List.length_append, List.length_singleton, Nat.add_zero]

theorem lineFeedsBefore_size (before after : Text) :
    lineFeedsBefore (size before) (before ++ after) = before.count '\n' := by
  induction before with
  | nil => cases after <;> rfl
  | cons c before ih =>
      have hpos : 0 < c.utf8Size := Char.utf8Size_pos c
      obtain ⟨n, hn⟩ : ∃ n, size (c :: before) = n + 1 := Nat.exists_eq_succ_of_ne_zero (by
        simp only [size]
        omega)
      have hrest : n + 1 - c.utf8Size = size before := by
        rw [← hn, size]
        omega
      rw [List.cons_append, hn, lineFeedsBefore, hrest, ih, List.count_cons, Nat.add_comm]
      simp only [beq_iff_eq]

theorem lineNumberAt_size (before after : Text) :
    lineNumberAt (size before) (before ++ after) = before.count '\n' + 1 := by
  rw [lineNumberAt, lineFeedsBefore_size]

/-! ## The texts of lines -/

/-- The texts of the lines of a content, at their spans. -/
def lineTexts (content : Text) : List Text := (lineSpans content).map fun s => s.text content

theorem spansFrom_texts (rows : List Text) (before : Text) :
    (spansFrom (size before) rows).map (fun s => s.text (before ++ join ['\n'] rows)) =
      rows.map dropReturn := by
  induction rows generalizing before with
  | nil => rfl
  | cons row rows ih =>
      obtain ⟨tail, htail⟩ := append_of_dropReturn row
      have hfirst : ∀ more, Span.text ⟨size before, size before + size (dropReturn row)⟩
          (before ++ (row ++ more)) = dropReturn row := by
        intro more
        have htext := Span.text_append before (dropReturn row) (tail ++ more)
        rwa [List.append_assoc, ← List.append_assoc (dropReturn row), ← htail] at htext
      rw [spansFrom_cons, List.map_cons, List.map_cons]
      by_cases hrows : rows = []
      · subst hrows
        have hrow := hfirst []
        rw [List.append_nil] at hrow
        simpa [spansFrom, join] using hrow
      · have hnext := ih (before ++ row ++ ['\n'])
        rw [append_join_cons _ _ hrows] at hnext
        rw [hnext, join_cons _ _ hrows, List.append_assoc row, hfirst]

theorem lineTexts_eq (content : Text) : lineTexts content = (lines content).map dropReturn := by
  have htexts := spansFrom_texts (lines content) []
  rwa [List.nil_append, lines, join_splitOn] at htexts

theorem lineCount_eq (t : Text) : lineCount t = (lines t).length := by
  rw [← List.length_map dropReturn, ← lineTexts_eq, lineTexts, List.length_map, lineCount]

theorem lineTexts_ended {rows : List Text} (h : ∀ row ∈ rows, '\n' ∉ row) (t : Text) :
    lineTexts (ended rows ++ t) = rows.map dropReturn ++ lineTexts t := by
  rw [lineTexts_eq, lines_ended h, List.map_append, lineTexts_eq]

/-- A carriage return at the end of a text does not show in its lines. -/
theorem lineTexts_return {t : Text} (h : t.getLast? ≠ some '\r') :
    lineTexts (t ++ ['\r']) = lineTexts t := by
  obtain ⟨rows, last, rfl, -, hrows, hlast⟩ := exists_last t
  have hkept : dropReturn last = last := dropReturn_of_getLast?_ne fun hreturn => by
    obtain ⟨front, rfl⟩ := List.getLast?_eq_some_iff.1 hreturn
    exact h (by simp)
  have hone : ∀ {row}, '\n' ∉ row → lineTexts row = [dropReturn row] := fun hrow => by
    rw [lineTexts_eq, lines, splitOn_of_not_mem hrow]
    rfl
  rw [List.append_assoc, lineTexts_ended hrows, lineTexts_ended hrows,
    hone (by simpa using hlast), hone hlast, hkept, dropReturn_append]

/-- Where a line ends, the lines of the first part come before those of the second one. -/
theorem lineTexts_terminated (ending : LineEnding) {a : Text} (h : a.getLast? ≠ some '\r')
    (b : Text) : lineTexts (a ++ ending.terminator ++ b) = lineTexts a ++ lineTexts b := by
  have hcut : ∀ front, lineTexts (front ++ '\n' :: b) = lineTexts front ++ lineTexts b := by
    intro front
    rw [lineTexts_eq, lines, splitOn_append, List.map_append, lineTexts_eq, lineTexts_eq, lines,
      lines]
  cases ending with
  | lf => simpa [terminator] using hcut a
  | crlf =>
      have hreturn := hcut (a ++ ['\r'])
      rw [lineTexts_return h] at hreturn
      simpa [terminator] using hreturn

/-- What is made ready for a file has the lines of the text. -/
theorem lineTexts_prepare (ending : LineEnding) (t : Text) :
    lineTexts (ending.prepare t) = lines (normalize t) := by
  have hreturn := not_mem_normalize t
  have hplain : ∀ row ∈ lines (normalize t), dropReturn row = row := fun row hrow =>
    dropReturn_of_not_mem fun h => hreturn (mem_of_mem_splitOn hrow h)
  rw [lineTexts_eq, prepare]
  cases ending with
  | lf => rw [encode_lf, List.map_congr_left hplain, List.map_id']
  | crlf =>
      rw [lines_crlf]
      generalize lines (normalize t) = rows at hplain
      induction rows with
      | nil => rfl
      | cons row rows ih =>
          obtain ⟨hrow, hrows⟩ := List.forall_mem_cons.1 hplain
          by_cases hnil : rows = []
          · subst hnil
            exact congrArg (fun r => [r]) hrow
          · rw [withReturns_cons _ hnil, List.map_cons, dropReturn_append, ih hrows]

theorem getLast?_prepare_ne (ending : LineEnding) (t : Text) :
    (ending.prepare t).getLast? ≠ some '\r' :=
  getLast?_encode_ne ending (not_mem_normalize t)

/-! ## Spans -/

theorem spansFrom_getElem? (rows : List Text) (start n : Nat) :
    (spansFrom start rows)[n]? = rows[n]?.map fun row =>
      ⟨start + size (ended (rows.take n)),
        start + size (ended (rows.take n)) + size (dropReturn row)⟩ := by
  induction rows generalizing start n with
  | nil => rfl
  | cons row rows ih =>
      cases n with
      | zero => simp [spansFrom, ended, size]
      | succ n =>
          have hsize : size (ended (row :: rows.take n)) =
              size row + 1 + size (ended (rows.take n)) := by
            rw [ended_cons, size_append, size_append]
            rfl
          rw [spansFrom, List.getElem?_cons_succ, ih, List.getElem?_cons_succ, List.take_succ_cons,
            hsize]
          simp only [Nat.add_assoc]

/-- A line starts after the lines before it, with their line feeds, and ends with its text. -/
theorem lineSpans_getElem? (content : Text) (n : Nat) :
    (lineSpans content)[n]? = (lines content)[n]?.map fun row =>
      ⟨size (ended ((lines content).take n)),
        size (ended ((lines content).take n) ++ dropReturn row)⟩ := by
  rw [lineSpans, spansFrom_getElem?]
  simp only [size_append, Nat.zero_add]

/-! ## Carriage returns -/

/-- A carriage return is dropped at the end of a line, if there is one. -/
theorem exists_dropReturn_append (row : Text) : ∃ mark, dropReturn row ++ mark = row ∧
    (mark = ['\r'] ∨ mark = [] ∧ (dropReturn row).getLast? ≠ some '\r') := by
  by_cases hlast : row.getLast? = some '\r'
  · obtain ⟨front, rfl⟩ := List.getLast?_eq_some_iff.1 hlast
    exact ⟨['\r'], by rw [dropReturn_append], .inl rfl⟩
  · rw [dropReturn_of_getLast?_ne hlast]
    exact ⟨[], List.append_nil row, .inr ⟨rfl, hlast⟩⟩

/-- A carriage return in a line is its last character, and the line is not the last one. -/
theorem return_of_paired {before front back : Text} {rest : List Text}
    (h : Paired (before ++ join ['\n'] ((front ++ '\r' :: back) :: rest)))
    (hfeed : '\n' ∉ front ++ '\r' :: back) : back = [] ∧ rest ≠ [] := by
  by_cases hrest : rest = []
  · subst hrest
    have hnext := h (before ++ front) back (by simp [join])
    exact absurd (by simp [List.mem_of_mem_head? hnext]) hfeed
  · rw [join_cons _ _ hrest] at h
    have hnext := h (before ++ front) (back ++ '\n' :: join ['\n'] rest) (by simp)
    refine ⟨?_, hrest⟩
    cases back with
    | nil => rfl
    | cons c back =>
        obtain rfl : c = '\n' := by simpa using hnext
        exact absurd (by simp) hfeed

/-- Where carriage returns come before line feeds only, a line has none, or it has one at its end
and is not the last line. -/
theorem line_of_paired {before row : Text} {rest : List Text}
    (h : Paired (before ++ join ['\n'] (row :: rest))) (hfeed : '\n' ∉ row) :
    '\r' ∉ row ∨ ∃ front, row = front ++ ['\r'] ∧ '\r' ∉ front ∧ rest ≠ [] := by
  by_cases hreturn : '\r' ∈ row
  · obtain ⟨front, back, rfl, hfront⟩ := List.eq_append_cons_of_mem hreturn
    obtain ⟨rfl, hrest⟩ := return_of_paired h hfeed
    exact .inr ⟨front, rfl, hfront, hrest⟩
  · exact .inl hreturn

/-- Where carriage returns come before line feeds only, a line is cut after its text: what comes
after it is nothing, or the end of a line and the lines after it. -/
theorem exists_after {content : Text} (h : Paired content) {n : Nat} {row : Text}
    (hrow : (lines content)[n]? = some row) :
    '\r' ∉ dropReturn row ∧ ∃ after,
      content = ended ((lines content).take n) ++ dropReturn row ++ after ∧
        (after = [] ∧ (lines content).drop (n + 1) = [] ∨
          (lines content).drop (n + 1) ≠ [] ∧ ∃ ending : LineEnding, after =
            ending.terminator ++ join ['\n'] ((lines content).drop (n + 1))) := by
  obtain ⟨hn, rfl⟩ := List.getElem?_eq_some_iff.1 hrow
  have hfeed : '\n' ∉ (lines content)[n] := not_mem_of_mem_lines (List.getElem_mem hn)
  have hcut := lines_cut hn
  rw [List.drop_eq_getElem_cons hn] at hcut
  generalize (lines content)[n] = row at hfeed hcut ⊢
  generalize (lines content).drop (n + 1) = rest at hcut ⊢
  generalize ended ((lines content).take n) = before at hcut ⊢
  rcases line_of_paired (hcut ▸ h) hfeed with hreturn | ⟨front, rfl, hfront, hrest⟩
  · rw [dropReturn_of_not_mem hreturn]
    refine ⟨hreturn, ?_⟩
    by_cases hrest : rest = []
    · subst hrest
      exact ⟨[], by simpa [join] using hcut, .inl ⟨rfl, rfl⟩⟩
    · rw [join_cons _ _ hrest] at hcut
      exact ⟨_, by simpa [terminator] using hcut, .inr ⟨hrest, .lf, rfl⟩⟩
  · rw [dropReturn_append]
    rw [join_cons _ _ hrest] at hcut
    exact ⟨hfront, _, by simpa [terminator] using hcut, .inr ⟨hrest, .crlf, rfl⟩⟩

end Text

end Emend
