import Emend.Proofs.Match.Strategies
import Emend.Proofs.Text.Endings
import Emend.Match.Find
/-!
# Matches of whole lines

Three strategies find whole lines only: the two that compare lines, and the one that goes by
their numbers.  What they find does not depend on how the content ends its lines.

*Passages.*  A passage is some lines of a content, with what comes before and after them.
The passage of the other style has the same lines (`Passage.crlf`).

*Lines.*  The lines of a content and the lines of its other form are the lines of the same
passages (`lineSpans_passages`), and so are the runs of lines (`windows_passages`).

*Searches.*  Lines are compared in a form in which their ends do not show, so a passage is
found in the one form of the content exactly if it is found in the other
(`findMatch_passage`).
-/

namespace Emend

/-- The strategies that find whole lines. -/
def MatchMode.takesLines : MatchMode → Bool
  | normalized | fuzzy | lineRange => true
  | tokenized | semantic | contains | regex => false

/-- Some lines of a content. -/
structure Passage (content : Text) where
  /-- What comes before them. -/
  before : Text
  /-- The lines, without the end of the last one. -/
  text : Text
  /-- What comes after them. -/
  after : Text
  /-- The parts make the content. -/
  eq : before ++ text ++ after = content
  /-- The first one is at the start of a line. -/
  starts : before ≠ [] → before.getLast? = some '\n'

namespace Passage

open LineEnding

variable {content : Text}

/-- The place of a passage. -/
def span (p : Passage content) : Span :=
  ⟨Text.size p.before, Text.size p.before + Text.size p.text⟩

/-- The match at a passage. -/
def toMatch (p : Passage content) : Match := ⟨p.span, p.text⟩

theorem text_span (p : Passage content) : p.span.text content = p.text := by
  have htext := Span.text_append p.before p.text p.after
  rwa [p.eq] at htext

theorem ofSpan_span (p : Passage content) : Match.ofSpan content p.span = p.toMatch := by
  rw [Match.ofSpan, text_span, toMatch]

/-- The same lines in the style with two characters. -/
def crlf (p : Passage content) : Passage (LineEnding.crlf.encode content) where
  before := LineEnding.crlf.encode p.before
  text := LineEnding.crlf.encode p.text
  after := LineEnding.crlf.encode p.after
  eq := by rw [← encode_append, ← encode_append, p.eq]
  starts := by
    intro hne
    have hbefore : p.before ≠ [] := fun h => hne (by rw [h]; rfl)
    obtain ⟨front, hfront⟩ := List.getLast?_eq_some_iff.1 (p.starts hbefore)
    rw [hfront, encode_append, encode_lineFeed]
    simp [terminator]

/-- From the start of a passage to the end of one that is not before it there is a passage. -/
theorem join (p q : Passage content) (h : p.span.start ≤ q.span.stop) :
    ∃ r : Passage content, r.span = ⟨p.span.start, q.span.stop⟩ ∧
      r.crlf.span = ⟨p.crlf.span.start, q.crlf.span.stop⟩ := by
  have heq : p.before ++ (p.text ++ p.after) = (q.before ++ q.text) ++ q.after := by
    rw [← List.append_assoc, p.eq, q.eq]
  have hle : Text.size p.before ≤ Text.size (q.before ++ q.text) := by
    rw [Text.size_append]
    exact h
  obtain ⟨part, hpart, hafter⟩ := Text.append_eq_of_size_le heq hle
  refine ⟨⟨p.before, part, q.after, ?_, p.starts⟩, ?_, ?_⟩
  · rw [← hpart, q.eq]
  · simp only [span, ← Text.size_append, hpart]
  · simp only [span, crlf, ← Text.size_append, ← encode_append, hpart]

end Passage

namespace Text

open LineEnding

variable {content : Text}

/-! ## Lines -/

/-- The lines of a content that come after a text which ends at the end of a line. -/
theorem spansFrom_passages (hreturn : '\r' ∉ content) (rest : List Text) (before : Text)
    (heq : before ++ join ['\n'] rest = content) (hlines : ∀ line ∈ rest, '\n' ∉ line)
    (hstarts : before ≠ [] → before.getLast? = some '\n') :
    ∃ passages : List (Passage content),
      spansFrom (size before) rest = passages.map Passage.span ∧
        spansFrom (size (crlf.encode before)) (withReturns rest) =
          passages.map fun p => p.crlf.span := by
  induction rest generalizing before with
  | nil => exact ⟨[], rfl, rfl⟩
  | cons line rest ih =>
      obtain ⟨hline, hmore⟩ := List.forall_mem_cons.1 hlines
      have hencode := encode_of_not_mem crlf hline
      by_cases hrest : rest = []
      · subst hrest
        have hdrop : dropReturn line = line :=
          dropReturn_of_not_mem fun h => hreturn (heq ▸ by simp [join, h])
        refine ⟨[⟨before, line, [], by simpa [join] using heq, hstarts⟩], ?_, ?_⟩
        · simp [spansFrom, hdrop, Passage.span]
        · simp [spansFrom, withReturns, hdrop, Passage.span, Passage.crlf, hencode]
      · rw [join_cons _ _ hrest] at heq
        have hdrop : dropReturn line = line :=
          dropReturn_of_not_mem fun h => hreturn (heq ▸ by simp [h])
        have hdropReturn := dropReturn_append line
        obtain ⟨passages, hspans, hcrlf⟩ := ih (before ++ line ++ ['\n'])
          (by simpa using heq) hmore (by simp)
        refine ⟨⟨before, line, ['\n'] ++ join ['\n'] rest, by simpa using heq, hstarts⟩ :: passages,
          ?_, ?_⟩
        · rw [spansFrom, List.map_cons, ← hspans, hdrop, size_append, size_append]
          rfl
        · rw [withReturns_cons _ hrest, spansFrom, List.map_cons, ← hcrlf, hdropReturn,
            encode_append, encode_append, hencode, size_append, size_append, size_append]
          simp only [Passage.span, Passage.crlf, hencode]
          rfl

/-- The lines of a content and of its other form are the lines of the same passages. -/
theorem lineSpans_passages (hreturn : '\r' ∉ content) :
    ∃ passages : List (Passage content), lineSpans content = passages.map Passage.span ∧
      lineSpans (crlf.encode content) = passages.map fun p => p.crlf.span := by
  have hpassages := spansFrom_passages hreturn (lines content) []
    (join_splitOn '\n' content) (fun line => not_mem_of_mem_lines) (by simp)
  rw [lineSpans, lineSpans, lines_crlf]
  exact hpassages

theorem windows_passages (n : Nat) {passages : List (Passage content)}
    (hrows : Rows content (passages.map Passage.span)) :
    ∃ runs : List (Passage content), windows n (passages.map Passage.span) =
        runs.map Passage.span ∧
      windows n (passages.map fun p => p.crlf.span) = runs.map fun p => p.crlf.span := by
  induction passages with
  | nil => exact ⟨[], rfl, rfl⟩
  | cons first rest ih =>
      obtain ⟨runs, hruns, hcrlf⟩ := ih hrows.tail
      rw [List.map_cons, List.map_cons]
      unfold windows
      split
      · exact ⟨[], rfl, rfl⟩
      · rw [← List.map_cons, ← List.map_cons (f := fun p : Passage content => p.crlf.span),
          List.getElem?_map, List.getElem?_map]
        cases hlast : (first :: rest)[n - 1]? with
        | none => exact ⟨[], rfl, rfl⟩
        | some last =>
            have hspan : ((first :: rest).map Passage.span)[n - 1]? = some last.span := by
              rw [List.getElem?_map, hlast]
              rfl
            have hle := (hrows.join (Nat.zero_le _) rfl hspan).ordered
            obtain ⟨run, hrun, hrunCrlf⟩ := first.join last hle
            refine ⟨run :: runs, ?_, ?_⟩
            · rw [List.map_cons, hrun, ← hruns]
              rfl
            · rw [List.map_cons, hrunCrlf, ← hcrlf]
              rfl

end Text

/-! ## Searches -/

section Searches

open LineEnding

variable {content : Text} (hreturn : '\r' ∉ content) (pattern : Text) (o : MatchOptions)

include hreturn

theorem candidates_passages :
    ∃ runs : List (Passage content), Lines.candidates content pattern = runs.map Passage.span ∧
      Lines.candidates (crlf.encode content) pattern = runs.map fun p => p.crlf.span := by
  obtain ⟨passages, hspans, hcrlf⟩ := Text.lineSpans_passages hreturn
  have hrows := Text.lineSpans_rows content
  rw [hspans] at hrows
  unfold Lines.candidates
  rw [hspans, hcrlf]
  exact Text.windows_passages _ hrows

theorem canonical_passage (p : Passage content) (folding : Folding) :
    Text.canonical folding p.crlf.text = Text.canonical folding p.text := by
  have hpart : '\r' ∉ p.text := fun h => hreturn (by rw [← p.eq]; simp [h])
  unfold Text.canonical
  simp only [Passage.crlf, normalize_crlf hpart, normalize_of_not_mem hpart]

theorem find_passage : ∃ found : Option (Passage content),
    Lines.find content pattern o = found.map Passage.toMatch ∧
      Lines.find (crlf.encode content) pattern o = found.map fun p => p.crlf.toMatch := by
  obtain ⟨runs, hruns, hcrlf⟩ := candidates_passages hreturn pattern
  unfold Lines.find
  dsimp only
  split
  · exact ⟨none, rfl, rfl⟩
  · refine ⟨runs.find? fun p =>
      Text.canonical o.folding p.text == Text.canonical o.folding pattern, ?_, ?_⟩
    · rw [hruns, List.find?_map, Option.map_map]
      simp only [Function.comp_def, Passage.text_span, Passage.ofSpan_span]
    · rw [hcrlf, List.find?_map, Option.map_map]
      simp only [Function.comp_def, Passage.text_span, Passage.ofSpan_span,
        canonical_passage hreturn]

theorem findSimilar_passage : ∃ found : Option (Passage content),
    Lines.findSimilar content pattern o = found.map Passage.toMatch ∧
      Lines.findSimilar (crlf.encode content) pattern o =
        found.map fun p => p.crlf.toMatch := by
  obtain ⟨runs, hruns, hcrlf⟩ := candidates_passages hreturn pattern
  unfold Lines.findSimilar
  dsimp only
  split
  · exact find_passage hreturn pattern o
  split
  · exact ⟨none, rfl, rfl⟩
  · have hbest := fun (span : Passage content → Span) (score : Span → Float) =>
      bestScored_map span (fun s => Distance.meets s o.threshold) score none runs
    simp only [Option.map_none] at hbest
    refine ⟨(bestScored (fun s => Distance.meets s o.threshold)
      (fun p : Passage content => Distance.similarity (Text.canonical o.folding pattern)
        (Text.canonical o.folding p.text) o.threshold) none runs).map Prod.snd, ?_, ?_⟩
    · rw [hruns, hbest, Option.map_map, Option.map_map]
      simp only [Function.comp_def, Passage.text_span, Passage.ofSpan_span]
    · rw [hcrlf, hbest, Option.map_map, Option.map_map]
      simp only [Function.comp_def, Passage.text_span, Passage.ofSpan_span,
        canonical_passage hreturn]

theorem findLines_passage : ∃ found : Option (Passage content),
    Literal.findLines content pattern = found.map Passage.toMatch ∧
      Literal.findLines (crlf.encode content) pattern = found.map fun p => p.crlf.toMatch := by
  obtain ⟨passages, hspans, hcrlf⟩ := Text.lineSpans_passages hreturn
  have hrows := Text.lineSpans_rows content
  unfold Literal.findLines
  cases Literal.parseLineRange? pattern with
  | none => exact ⟨none, rfl, rfl⟩
  | some range =>
  obtain ⟨first, last⟩ := range
  simp only [Option.bind_eq_bind, Option.bind_some]
  split
  · next hrange =>
    rw [hspans] at hrows ⊢
    rw [hcrlf]
    simp only [List.getElem?_map]
    cases ha : passages[first - 1]? with
    | none => exact ⟨none, rfl, rfl⟩
    | some a =>
    cases hb : passages[last - 1]? with
    | none => exact ⟨none, rfl, rfl⟩
    | some b =>
        have hle := (hrows.join (Nat.sub_le_sub_right hrange.2 1) (by rw [List.getElem?_map, ha]; rfl)
          (by rw [List.getElem?_map, hb]; rfl)).ordered
        obtain ⟨run, hrun, hrunCrlf⟩ := a.join b hle
        refine ⟨some run, ?_, ?_⟩
        · simp only [Option.map_some, Option.bind_some, ← hrun, Passage.ofSpan_span]
          rfl
        · simp only [Option.map_some, Option.bind_some, ← hrunCrlf, Passage.ofSpan_span]
          rfl
  · exact ⟨none, rfl, rfl⟩

/-- The same lines are found in a content and in its other form. -/
theorem findMatch_passage (hmode : o.mode.takesLines) (hanchor : o.anchor = none) :
    ∃ found : Option (Passage content),
      findMatch content pattern o = found.map Passage.toMatch ∧
        findMatch (crlf.encode content) pattern o = found.map fun p => p.crlf.toMatch := by
  simp only [findMatch, hanchor, findIn]
  cases hm : o.mode with
  | normalized => exact find_passage hreturn pattern o
  | fuzzy => exact findSimilar_passage hreturn pattern o
  | lineRange => exact findLines_passage hreturn pattern
  | tokenized | semantic | contains | regex => simp [hm, MatchMode.takesLines] at hmode

end Searches

end Emend
