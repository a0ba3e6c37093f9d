import Emend.Proofs.Match.LineRuns
import Emend.Proofs.Match.Usable
import Emend.Proofs.Text.Numbers
/-!
# Lines by their numbers

A text names lines by one number, or by two with a dash between them (`NamesLines`).  Each number
may have a plus sign before it and blanks around it.  This is what is read, and nothing else
(`Literal.parseLineRange?_eq_some_iff`).

*Cuts.*  The lines from one to another are cut out of a content between the lines before them and
the lines after them (`LineCut`).  The end of the last line is not among them, and its carriage
return is part of the end.

*Matches.*  Lines that are named are found if the content has them all, and what is found is cut
out of it (`Literal.findLines_exact`).
-/

namespace Emend

open Text

variable {content pattern t a : Text} {m : Match} {first last i j n : Nat}

/-! ## Names of lines -/

/-- Without the blanks around it a text is read as a count if it is a written count and blanks. -/
theorem Text.count?_trim_iff :
    count? (trim t) = some n ↔ ∃ core, Padded core t ∧ WritesCount core n := by
  rw [count?_eq_some_iff]
  constructor
  · intro h
    exact ⟨trim t, padded_trim t, h⟩
  · rintro ⟨core, hpadded, hcount⟩
    rwa [hpadded.trim_eq, trim_of_solid hcount.solid]

namespace Literal

/-- A text names the lines from `first` to `last`. -/
inductive NamesLines : (t : Text) → (first last : Nat) → Prop
  /-- One line, by its number. -/
  | one {t core : Text} {n : Nat} : Padded core t → WritesCount core n → NamesLines t n n
  /-- Lines, by the numbers of the first one and of the last one. -/
  | range {a b core core' : Text} {first last : Nat} : Padded core a → WritesCount core first →
      Padded core' b → WritesCount core' last → NamesLines (a ++ '-' :: b) first last

theorem parseLineRange?_of_not_mem (h : '-' ∉ t) :
    parseLineRange? t = (count? (trim t)).map fun n => (n, n) := by
  have hbreak : breakOn? ['-'] (trim t) = none := by
    rcases breakOn?_singleton '-' (trim t) with ⟨-, hbreak⟩ | ⟨before, after, heq, -, -⟩
    · exact hbreak
    · exact absurd ((padded_trim t).mem (heq ▸ by simp)) h
  rw [parseLineRange?, hbreak]
  cases count? (trim t) <;> rfl

/-- A text is read at both sides of its first dash. -/
theorem parseLineRange?_append (h : '-' ∉ a) (b : Text) :
    parseLineRange? (a ++ '-' :: b) =
      (count? (trim a)).bind fun first => (count? (trim b)).map fun last => (first, last) := by
  have ha : '-' ∉ trimStart a := fun hmem => h ((List.dropWhile_sublist _).subset hmem)
  rw [parseLineRange?, trim_cut (by decide), breakOn?_append ha]
  simp only [trim_trimStart, trim_trimEnd]
  cases count? (trim a) with
  | none => rfl
  | some first => cases count? (trim b) <;> rfl

theorem dash_not_mem_of_padded {core : Text} (hpadded : Padded core t)
    (hcount : WritesCount core n) : '-' ∉ t :=
  fun hmem => hcount.dash_not_mem (hpadded.mem_core (by decide) hmem)

/-- What is read as lines is what names them. -/
theorem parseLineRange?_eq_some_iff :
    parseLineRange? t = some (first, last) ↔ NamesLines t first last := by
  constructor
  · intro h
    rcases breakOn?_singleton '-' t with ⟨hdash, -⟩ | ⟨a, b, rfl, hdash, -⟩
    · rw [parseLineRange?_of_not_mem hdash] at h
      obtain ⟨n, hn, heq⟩ := Option.map_eq_some_iff.1 h
      cases heq
      obtain ⟨core, hpadded, hcount⟩ := count?_trim_iff.1 hn
      exact .one hpadded hcount
    · rw [parseLineRange?_append hdash] at h
      obtain ⟨n, hn, h⟩ := Option.bind_eq_some_iff.1 h
      obtain ⟨k, hk, heq⟩ := Option.map_eq_some_iff.1 h
      cases heq
      obtain ⟨core, hpadded, hcount⟩ := count?_trim_iff.1 hn
      obtain ⟨core', hpadded', hcount'⟩ := count?_trim_iff.1 hk
      exact .range hpadded hcount hpadded' hcount'
  · intro h
    cases h with
    | one hpadded hcount =>
        rw [parseLineRange?_of_not_mem (dash_not_mem_of_padded hpadded hcount),
          count?_trim_iff.2 ⟨_, hpadded, hcount⟩]
        rfl
    | range hpadded hcount hpadded' hcount' =>
        rw [parseLineRange?_append (dash_not_mem_of_padded hpadded hcount),
          count?_trim_iff.2 ⟨_, hpadded, hcount⟩, count?_trim_iff.2 ⟨_, hpadded', hcount'⟩]
        rfl

end Literal

/-! ## Lines cut out of a content -/

/-- The lines of a content from `first` to `last`, counted from one, without the end of the last
one, and what comes before and after them. -/
structure LineCut (content : Text) (first last : Nat) where
  /-- The lines before them, each with its end. -/
  before : Text
  /-- The lines. -/
  text : Text
  /-- The carriage return at the end of the last one, if it has one. -/
  mark : Text
  /-- The lines after them, each after the line feed before it. -/
  after : Text
  /-- The parts make the content. -/
  eq : before ++ text ++ mark ++ after = content
  /-- The lines before the first one come before them. -/
  before_eq : before = ended ((lines content).take (first - 1))
  /-- The lines after the last one come after them. -/
  after_eq : after = begun ((lines content).drop last)
  /-- Between line feeds there are the lines of the content, the last one without its carriage
  return. -/
  lines_eq : ∃ front final,
    ((lines content).take last).drop (first - 1) = front ++ [final ++ mark] ∧
      lines text = front ++ [final] ∧ (mark = ['\r'] ∨ mark = [] ∧ final.getLast? ≠ some '\r')

namespace LineCut

/-- The match at the lines. -/
def toMatch (cut : LineCut content first last) : Match :=
  ⟨⟨size cut.before, size cut.before + size cut.text⟩, cut.text⟩

theorem ofSpan_span (cut : LineCut content first last) :
    Match.ofSpan content cut.toMatch.span = cut.toMatch := by
  have htext := Span.text_append cut.before cut.text (cut.mark ++ cut.after)
  rw [← List.append_assoc, cut.eq] at htext
  rw [Match.ofSpan, toMatch, htext]

section Numbers

variable (cut : LineCut content (i + 1) (j + 1)) (hj : j < (lines content).length) (hle : i ≤ j)

include hj hle

theorem count_before : cut.before.count '\n' = i := by
  rw [cut.before_eq, Nat.add_sub_cancel, count_ended_take (by omega)]

theorem count_text : cut.text.count '\n' = j - i := by
  obtain ⟨front, final, hrows, hlines, -⟩ := cut.lines_eq
  have hlength := congrArg List.length hrows
  have htext := length_lines cut.text
  rw [Nat.add_sub_cancel, List.length_drop, List.length_take, List.length_append,
    List.length_singleton] at hlength
  rw [hlines, List.length_append, List.length_singleton] at htext
  omega

theorem lineNumberAt_start : lineNumberAt cut.toMatch.span.start content = i + 1 := by
  have hnumber := lineNumberAt_size cut.before (cut.text ++ cut.mark ++ cut.after)
  rwa [← List.append_assoc, ← List.append_assoc, cut.eq, cut.count_before hj hle] at hnumber

theorem lineNumberAt_stop : lineNumberAt cut.toMatch.span.stop content = j + 1 := by
  have hnumber := lineNumberAt_size (cut.before ++ cut.text) (cut.mark ++ cut.after)
  rwa [← List.append_assoc, cut.eq, List.count_append, cut.count_before hj hle,
    cut.count_text hj hle, Nat.add_sub_cancel' hle, size_append] at hnumber

end Numbers

end LineCut

/-- A content is the lines before a run of lines, the run, and the lines after it. -/
theorem eq_of_run (hle : i ≤ j) (hj : j < (lines content).length) : content =
    ended ((lines content).take i) ++ ended (((lines content).take j).drop i) ++
      (lines content)[j] ++ begun ((lines content).drop (j + 1)) := by
  conv_lhs => rw [lines_cut hj, List.drop_eq_getElem_cons hj, join_begun, ended_take hle]
  simp only [List.append_assoc]

/-- A run of lines is cut out of the content. -/
theorem Match.Covers.exists_lineCut (h : m.Covers content i j) (hexact : m.Exact content) :
    ∃ cut : LineCut content (i + 1) (j + 1), m = cut.toMatch := by
  obtain ⟨hle, start, stop, hstart, hstop, hspan⟩ := h
  rw [lineSpans_getElem?] at hstart hstop
  obtain ⟨row, hrow, rfl⟩ := Option.map_eq_some_iff.1 hstart
  obtain ⟨row', hrow', rfl⟩ := Option.map_eq_some_iff.1 hstop
  obtain ⟨hj, rfl⟩ := List.getElem?_eq_some_iff.1 hrow'
  obtain ⟨mark, hmark, hlast⟩ := exists_dropReturn_append (lines content)[j]
  have hfeed : ∀ row ∈ lines content, '\n' ∉ row := fun row => not_mem_of_mem_lines
  have hfinal : '\n' ∉ dropReturn (lines content)[j] := fun hmem =>
    hfeed _ (List.getElem_mem hj) (hmark ▸ List.mem_append_left mark hmem)
  let cut : LineCut content (i + 1) (j + 1) := {
    before := ended ((lines content).take i)
    text := ended (((lines content).take j).drop i) ++ dropReturn (lines content)[j]
    mark := mark
    after := begun ((lines content).drop (j + 1))
    eq := by
      conv_rhs => rw [eq_of_run hle hj, ← hmark]
      simp only [List.append_assoc]
    before_eq := rfl
    after_eq := rfl
    lines_eq := by
      refine ⟨((lines content).take j).drop i, dropReturn (lines content)[j], ?_, ?_, hlast⟩
      · rw [hmark]
        exact drop_take_succ hle hj
      · rw [lines_ended fun row hrow =>
          hfeed row (List.mem_of_mem_take (List.mem_of_mem_drop hrow))]
        exact congrArg _ (splitOn_of_not_mem hfinal) }
  have hcut : m.span = cut.toMatch.span := by
    rw [hspan, ended_take hle, List.append_assoc, size_append _ (_ ++ _)]
    rfl
  refine ⟨cut, ?_⟩
  rw [← cut.ofSpan_span, ← hcut, Match.ofSpan, Span.text, Text.slice_eq hexact]

/-! ## Matches -/

namespace Literal

/-- Lines that are named are found if the content has them all. -/
theorem exists_findLines_iff (h : NamesLines pattern first last) :
    (∃ m, findLines content pattern = some m) ↔
      1 ≤ first ∧ first ≤ last ∧ last ≤ content.count '\n' + 1 := by
  have hparse := parseLineRange?_eq_some_iff.2 h
  rw [← Option.isSome_iff_exists, ← Option.ne_none_iff_isSome]
  by_cases hrange : 1 ≤ first ∧ first ≤ last
  · rw [ne_eq, findLines_eq_none_iff hparse hrange.1 hrange.2, lineCount_eq, length_lines]
    omega
  · have hnone : findLines content pattern = none := by simp [findLines, hparse, hrange]
    rw [hnone]
    constructor
    · exact fun hne => absurd rfl hne
    · exact fun hfits => absurd ⟨hfits.1, hfits.2.1⟩ hrange

/-- A text is read as the lines that it names.  They are found if the content has them all, which
are as many as it has line feeds and one more.  What is found is cut out of the content: it starts
in the first of these lines and ends in the last one. -/
theorem findLines_exact (content pattern : Text) :
    (∀ first last, parseLineRange? pattern = some (first, last) ↔
      NamesLines pattern first last) ∧
    ∀ first last, NamesLines pattern first last →
      ((∃ m, findLines content pattern = some m) ↔
        1 ≤ first ∧ first ≤ last ∧ last ≤ content.count '\n' + 1) ∧
      ∀ m, findLines content pattern = some m →
        (∃ cut : LineCut content first last, m = cut.toMatch) ∧
          lineNumberAt m.span.start content = first ∧
          lineNumberAt m.span.stop content = last := by
  refine ⟨fun _ _ => parseLineRange?_eq_some_iff, fun first last h => ?_⟩
  refine ⟨exists_findLines_iff h, fun m hm => ?_⟩
  obtain ⟨-, hordered, hfits⟩ := (exists_findLines_iff h).1 ⟨m, hm⟩
  obtain ⟨hfirst, hlast, hcovers⟩ := covers_of_findLines (parseLineRange?_eq_some_iff.2 h) hm
  have hexact := (Checked.findNumbered_agrees content pattern).exact m hm
  obtain ⟨i, rfl⟩ := Nat.exists_eq_add_of_le' hfirst
  obtain ⟨j, rfl⟩ := Nat.exists_eq_add_of_le' hlast
  obtain ⟨cut, rfl⟩ := hcovers.exists_lineCut hexact
  have hj : j < (lines content).length := by
    rw [length_lines]
    exact hfits
  have hle : i ≤ j := Nat.le_of_succ_le_succ hordered
  exact ⟨⟨cut, rfl⟩, cut.lineNumberAt_start hj hle, cut.lineNumberAt_stop hj hle⟩

/-- Three lines in two styles, and an empty one. -/
def mixedLines : Text := ['a', '\r', '\n', 'b', '\n', 'c', '\r', '\n']

theorem findLines_exact_mixedLines :
    findLines mixedLines " 2 - +3 ".toList = some ⟨⟨3, 6⟩, ['b', '\n', 'c']⟩ ∧
      (∃ cut : LineCut mixedLines 2 3, cut.toMatch = ⟨⟨3, 6⟩, ['b', '\n', 'c']⟩) ∧
      lineNumberAt 3 mixedLines = 2 ∧ lineNumberAt 6 mixedLines = 3 := by
  have hfound : findLines mixedLines " 2 - +3 ".toList = some ⟨⟨3, 6⟩, ['b', '\n', 'c']⟩ := by
    decide
  obtain ⟨hreads, hfinds⟩ := findLines_exact mixedLines " 2 - +3 ".toList
  have hnames := (hreads 2 3).1 (by decide)
  obtain ⟨⟨cut, hcut⟩, hnumbers⟩ := (hfinds 2 3 hnames).2 _ hfound
  exact ⟨hfound, ⟨cut, hcut.symm⟩, hnumbers⟩

end Literal

end Emend
