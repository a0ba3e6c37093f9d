import Mathlib.Order.Bounds.Basic
import Emend.Proofs.Text.Encoding
import Emend.Proofs.Text.LineTexts
/-!
# Breaks between lines, and numbers of lines

The spans of the lines leave out what ends the lines.  Between two of them there is a line feed,
perhaps with a carriage return before it, and after the last one there may be a carriage return
(`exists_breaks`).  Lines and breaks put together are the content again.

*Numbers.*  The number of a line is told without the spans, by the bytes of line feeds before an
offset (`lineFeedsBefore_eq_count`).  What comes before a line ends in a line feed, so all its line
feeds come before an offset only if the line starts there or before it
(`count_le_lineFeedsBefore_iff`).  So the lines that do are those up to the number that is told
(`start_le_iff`).
-/

namespace Emend

namespace Text

open LineEnding

/-! ## Breaks -/

/-- What a content has between the end of each span and the start of the next one, and after the
end of the last one. -/
def breaks (content : Text) : List Span → List Text
  | [] => []
  | [last] => [content.slice last.stop (size content)]
  | span :: next :: rest => content.slice span.stop next.start :: breaks content (next :: rest)

/-- With a line feed after it, a carriage return or nothing is the end of a line. -/
theorem exists_terminator {mark : Text} (h : mark = [] ∨ mark = ['\r']) :
    ∃ ending : LineEnding, ending.terminator = mark ++ ['\n'] := by
  rcases h with rfl | rfl
  · exact ⟨.lf, rfl⟩
  · exact ⟨.crlf, rfl⟩

theorem slice_between (before part after : Text) :
    slice (size before) (size (before ++ part)) (before ++ part ++ after) = part := by
  rw [size_append]
  exact Span.text_append before part after

/-- The breaks of lines that come after a text: each is the end of a line, but for the last one. -/
theorem exists_breaks {rows : List Text} (hrows : rows ≠ []) (before : Text) :
    ∃ (endings : List LineEnding) (mark : Text), (mark = [] ∨ mark = ['\r']) ∧
      breaks (before ++ join ['\n'] rows) (spansFrom (size before) rows) =
        endings.map terminator ++ [mark] ∧
      (List.zipWith (· ++ ·) (rows.map dropReturn) (endings.map terminator ++ [mark])).flatten =
        join ['\n'] rows := by
  induction rows generalizing before with
  | nil => exact absurd rfl hrows
  | cons row rest ih =>
      obtain ⟨mark, hrow, hdropped⟩ := exists_dropReturn_append row
      have hmark : mark = [] ∨ mark = ['\r'] := hdropped.symm.imp_left And.left
      cases rest with
      | nil =>
          have hlast := slice_between (before ++ dropReturn row) mark []
          rw [List.append_nil, List.append_assoc, hrow, size_append] at hlast
          refine ⟨[], mark, hmark, ?_, by simpa [join] using hrow⟩
          simpa [breaks, spansFrom, join] using hlast
      | cons next rest =>
          have hnext : next :: rest ≠ [] := List.cons_ne_nil _ _
          -- The next line comes after a text that has this line and its line feed.
          obtain ⟨endings, final, hfinal, hbreaks, hjoin⟩ := ih hnext (before ++ row ++ ['\n'])
          rw [append_join_cons _ _ hnext] at hbreaks
          obtain ⟨ending, hending⟩ := exists_terminator hmark
          have hcut : before ++ dropReturn row ++ ending.terminator = before ++ row ++ ['\n'] := by
            rw [hending, ← List.append_assoc, List.append_assoc before, hrow]
          have hfirst := slice_between (before ++ dropReturn row) ending.terminator
            (join ['\n'] (next :: rest))
          rw [hcut, append_join_cons _ _ hnext, size_append before] at hfirst
          refine ⟨ending :: endings, final, hfinal, ?_, ?_⟩
          · rw [spansFrom_cons, List.map_cons, List.cons_append, ← hbreaks, ← hfirst]
            rfl
          · rw [List.map_cons, List.map_cons (f := terminator), List.cons_append,
              List.zipWith_cons_cons, List.flatten_cons, hjoin, hending, ← List.append_assoc, hrow,
              join_cons _ _ hnext]

theorem lineFeed_not_mem_of_mem {content : Text} {s : Span} (h : s ∈ lineSpans content) :
    '\n' ∉ s.text content := by
  have htext : s.text content ∈ lineTexts content := List.mem_map_of_mem h
  rw [lineTexts_eq] at htext
  obtain ⟨row, hrow, heq⟩ := List.mem_map.1 htext
  obtain ⟨tail, htail⟩ := append_of_dropReturn row
  rw [← heq]
  intro hmem
  refine not_mem_of_mem_lines hrow ?_
  rw [htail]
  exact List.mem_append_left tail hmem

/-! ## Numbers -/

/-- Line feeds are told by their bytes, and no other character has such a byte. -/
theorem lineFeedsBefore_eq_count (n : Nat) (t : Text) :
    lineFeedsBefore n t = ((Utf8.encode t).take n).count (Utf8.byte '\n') := by
  induction t generalizing n with
  | nil => cases n <;> rfl
  | cons c t ih =>
      cases n with
      | zero => rfl
      | succ n =>
          have hfirst : ((Utf8.encodeChar c).take (n + 1)).count (Utf8.byte '\n') =
              if c = '\n' then 1 else 0 := by
            split
            · next hc =>
              rw [hc, Utf8.encodeChar_ascii (by decide), List.take_succ_cons, List.take_nil]
              rfl
            · next hc =>
              refine List.count_eq_zero.2 fun hmem => hc ?_
              exact (Utf8.byte_mem_encodeChar (by decide)).1 (List.mem_of_mem_take hmem)
          rw [Utf8.encode_cons, List.take_append, List.count_append, hfirst,
            Utf8.length_encodeChar, ← ih]
          rfl

theorem lineFeedsBefore_mono {m n : Nat} (h : m ≤ n) (t : Text) :
    lineFeedsBefore m t ≤ lineFeedsBefore n t := by
  rw [lineFeedsBefore_eq_count, lineFeedsBefore_eq_count]
  exact (List.take_sublist_take_left h).count_le _

theorem lineFeedsBefore_le_count (n : Nat) (t : Text) : lineFeedsBefore n t ≤ t.count '\n' := by
  have hall := lineFeedsBefore_size t []
  rw [List.append_nil] at hall
  rw [← hall, lineFeedsBefore_eq_count, lineFeedsBefore_eq_count, ← Utf8.length_encode,
    List.take_length]
  exact (List.take_sublist _ _).count_le _

/-- All line feeds of lines come before an offset if the lines end there or before it. -/
theorem count_le_lineFeedsBefore_iff (rows : List Text) (after : Text) (n : Nat) :
    (ended rows).count '\n' ≤ lineFeedsBefore n (ended rows ++ after) ↔ size (ended rows) ≤ n := by
  constructor
  · intro hle
    refine Nat.le_of_not_lt fun hlt => ?_
    have hrows : rows ≠ [] := by
      rintro rfl
      cases hlt
    -- The last line feed does not come before the offset.
    obtain ⟨front, hfront⟩ := List.getLast?_eq_some_iff.1 (getLast?_ended hrows)
    rw [hfront] at hle hlt
    have hbefore : n ≤ size front := by
      rw [size_append] at hlt
      exact Nat.le_of_lt_succ hlt
    have hfewer : lineFeedsBefore n (front ++ ['\n'] ++ after) < (front ++ ['\n']).count '\n' :=
      calc lineFeedsBefore n (front ++ ['\n'] ++ after)
          ≤ lineFeedsBefore (size front) (front ++ ['\n'] ++ after) :=
            lineFeedsBefore_mono hbefore _
        _ = front.count '\n' := by rw [List.append_assoc, lineFeedsBefore_size]
        _ < (front ++ ['\n']).count '\n' := by simp
    exact Nat.not_le_of_lt hfewer hle
  · intro hle
    rw [← lineFeedsBefore_size (ended rows) after]
    exact lineFeedsBefore_mono hle _

/-- A line starts at an offset or before it if its number is not above that of the offset. -/
theorem start_le_iff {content : Text} {i n : Nat} {s : Span}
    (h : (lineSpans content)[i]? = some s) : s.start ≤ n ↔ i ≤ lineFeedsBefore n content := by
  rw [lineSpans_getElem?] at h
  obtain ⟨row, hrow, rfl⟩ := Option.map_eq_some_iff.1 h
  obtain ⟨hi, -⟩ := List.getElem?_eq_some_iff.1 hrow
  have hiff := count_le_lineFeedsBefore_iff ((lines content).take i)
    (join ['\n'] ((lines content).drop i)) n
  rw [← lines_cut hi, count_ended_take (Nat.le_of_lt hi)] at hiff
  exact hiff.symm

theorem length_lineSpans (content : Text) :
    (lineSpans content).length = content.count '\n' + 1 := by
  rw [← lineCount, lineCount_eq, length_lines]

theorem lineNumberAt_isGreatest (n : Nat) (content : Text) :
    IsGreatest {k | ∃ i s, (lineSpans content)[i]? = some s ∧ s.start ≤ min n (size content) ∧
      k = i + 1} (lineNumberAt n content) := by
  constructor
  · have hlt : lineFeedsBefore n content < (lineSpans content).length := by
      rw [length_lineSpans]
      exact Nat.lt_succ_of_le (lineFeedsBefore_le_count n content)
    have hspan := List.getElem?_eq_getElem hlt
    have hfits := (lineSpans_rows content).fits _ (List.getElem_mem hlt)
    refine ⟨_, _, hspan, Nat.le_min.2 ⟨(start_le_iff hspan).2 (Nat.le_refl _), ?_⟩, rfl⟩
    exact Nat.le_trans hfits.ordered hfits.stop_le
  · rintro k ⟨i, s, hspan, hstart, rfl⟩
    exact Nat.succ_le_succ ((start_le_iff hspan).1 (Nat.le_min.1 hstart).1)

/-- The spans of the lines cut a content at its line feeds.  There is one more of them than there
are line feeds, and each fits the content and has no line feed in it.  Between two of them there is
the end of a line in either style, and after the last one nothing or a carriage return, and together
with that they make up the content.  At an offset, the number of the line is one more than there are
line feeds among the bytes before it, and this is the number of the last line that starts there or
before it, or in the content if the offset is not in it. -/
theorem lineSpans_partition (content : Text) :
    (lineSpans content).length = content.count '\n' + 1 ∧
    (∀ s ∈ lineSpans content, s.Fits content ∧ '\n' ∉ s.text content) ∧
    (∃ (endings : List LineEnding) (mark : Text), (mark = [] ∨ mark = ['\r']) ∧
      breaks content (lineSpans content) = endings.map terminator ++ [mark]) ∧
    (List.zipWith (· ++ ·) (lineTexts content) (breaks content (lineSpans content))).flatten =
      content ∧
    ∀ offset,
      lineNumberAt offset content =
        ((Utf8.encode content).take offset).count (Utf8.byte '\n') + 1 ∧
      IsGreatest {n | ∃ i s, (lineSpans content)[i]? = some s ∧
        s.start ≤ min offset (size content) ∧ n = i + 1} (lineNumberAt offset content) := by
  obtain ⟨endings, mark, hmark, hbreaks, hjoin⟩ := exists_breaks (splitOn_ne_nil '\n' content) []
  rw [List.nil_append, join_splitOn] at hbreaks
  rw [join_splitOn, ← lines, ← lineTexts_eq, ← hbreaks] at hjoin
  refine ⟨length_lineSpans content,
    fun s hs => ⟨(lineSpans_rows content).fits s hs, lineFeed_not_mem_of_mem hs⟩,
    ⟨endings, mark, hmark, hbreaks⟩, hjoin, fun offset => ⟨?_, lineNumberAt_isGreatest _ _⟩⟩
  rw [lineNumberAt, lineFeedsBefore_eq_count]

/-- Three lines: the first one ends with two characters and the second one with a line feed, and
after the last one comes a carriage return. -/
def unevenLines : Text := ['a', '\r', '\n', '\n', 'é', '\r']

/-- An offset inside the last character is in the third line. -/
theorem lineSpans_partition_uneven :
    ⟨4, 6⟩ ∈ lineSpans unevenLines ∧ Span.Fits ⟨4, 6⟩ unevenLines ∧
    '\n' ∉ Span.text ⟨4, 6⟩ unevenLines ∧
    IsGreatest {n | ∃ i s, (lineSpans unevenLines)[i]? = some s ∧ s.start ≤ min 5 7 ∧
      n = i + 1} 3 := by
  have hmem : ⟨4, 6⟩ ∈ lineSpans unevenLines := by decide
  obtain ⟨-, hspans, -, -, hnumbers⟩ := lineSpans_partition unevenLines
  exact ⟨hmem, (hspans _ hmem).1, (hspans _ hmem).2, (hnumbers 5).2⟩

end Text

end Emend
