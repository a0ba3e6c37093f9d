import Emend.Proofs.Match.Passages
import Emend.Proofs.Run.Plan
/-!
# Edits in the style of the file

A file is edited in its own style: what is planned on the form of a content with two
characters at each end of a line is the form of what is planned on the content.

*Passages.*  Where whole lines are found, the content after the change is made of what comes
before them, of the text of the change in the style of the file, and of what comes after
(`plan_passage`).

*Indentation.*  There is one exception.  A replacement takes over the indentation of the
line in which the match starts, and the line that is looked at ends before its line feed.
If there are only blanks in it, the carriage return is one of them, and each line of the
replacement that is not blank gets it too (`Plan.TakesReturn`, `plan_crlf_iff`).
-/

namespace Emend

open LineEnding

variable {content : Text}

namespace Passage

/-! ## Lines around a passage -/

/-- The line in which a passage starts, up to its line feed. -/
def firstLine (p : Passage content) : Text := Text.before (· == '\n') (p.text ++ p.after)

theorem splitAt?_start (p : Passage content) :
    Text.splitAt? p.span.start content = some (p.before, p.text ++ p.after) :=
  Text.splitAt?_iff.2 ⟨by rw [← List.append_assoc, p.eq], rfl⟩

theorem lineAround_start (p : Passage content) :
    Plan.lineAround content p.span.start = ([], p.firstLine) := by
  have hlast : ((Text.lines p.before).getLast?).getD [] = [] := by
    by_cases hbefore : p.before = []
    · rw [hbefore]
      rfl
    · obtain ⟨front, hfront⟩ := List.getLast?_eq_some_iff.1 (p.starts hbefore)
      rw [hfront, Text.lines, Text.splitOn_append]
      simp [Text.splitOn]
  simp only [Plan.lineAround, splitAt?_start, hlast, List.nil_append]
  rfl

theorem not_mem_firstLine (p : Passage content) : '\n' ∉ p.firstLine := by
  intro h
  simpa using List.mem_takeWhile_imp h

/-- The indentation of the other form has one more carriage return if the line is blank and
has an end. -/
theorem firstLine_crlf (p : Passage content) : p.crlf.firstLine =
    if '\n' ∈ p.text ++ p.after then p.firstLine ++ ['\r'] else p.firstLine := by
  unfold firstLine crlf
  simp only
  rw [← encode_append]
  generalize p.text ++ p.after = t
  induction t with
  | nil => rfl
  | cons c t ih =>
      by_cases hc : c = '\n'
      · subst hc
        rw [encode_cons_lineFeed]
        simp [Text.before, terminator]
      · rw [encode_cons_of_ne _ hc]
        unfold Text.before at ih ⊢
        rw [List.takeWhile_cons_of_pos (by simpa using hc), ih,
          List.takeWhile_cons_of_pos (by simpa using hc)]
        by_cases hmem : '\n' ∈ t <;> simp [hmem, Ne.symm hc]

theorem reindented_start (p : Passage content) (t : Text) (ending : LineEnding) :
    Plan.reindented content p.span.start t ending =
      Text.reindent (Text.indentOf p.firstLine) ending t := by
  simp only [Plan.reindented, lineAround_start]
  cases hlead : Text.afterLead? (Text.indentOf p.firstLine)
      (Text.reindent (Text.indentOf p.firstLine) ending t) with
  | none => rfl
  | some rest =>
      -- The match starts with the line, so it covers all of the indentation.
      simp only
      split
      · rfl
      · rw [Text.afterLead?_iff.1 hlead]
        rfl

end Passage

/-! ## Changes of passages -/

/-- What a change leaves where there was a passage. -/
def Change.leaves (p : Passage content) (ending : LineEnding) : Change → Text
  | replaced t => Text.reindent (Text.indentOf p.firstLine) ending t
  | before t => ending.prepare t ++ ending.terminator ++ p.text
  | after t => p.text ++ (ending.terminator ++ ending.prepare t)
  | deleted => []

/-- A change of a passage puts what it leaves between what comes before and after. -/
theorem splice_passage (p : Passage content) (ending : LineEnding) (change : Change)
    (hash : Text → UInt64) :
    (Plan.edit content p.toMatch ending change hash).splice content hash =
      .ok (p.before ++ change.leaves p ending ++ p.after) := by
  cases change with
  | replaced t =>
      have hsplice := Edit.splice_at (Text.reindent (Text.indentOf p.firstLine) ending t) hash
        p.before p.text p.after
      rw [p.eq] at hsplice
      rw [Change.leaves, ← hsplice, ← Passage.reindented_start]
      rfl
  | before t =>
      have hsplice := Edit.splice_at (ending.prepare t ++ ending.terminator) hash p.before []
        (p.text ++ p.after)
      rw [List.append_nil, ← List.append_assoc, p.eq] at hsplice
      rw [Change.leaves, List.append_assoc, List.append_assoc, ← List.append_assoc, ← hsplice]
      rfl
  | after t =>
      have hsplice := Edit.splice_at (ending.terminator ++ ending.prepare t) hash
        (p.before ++ p.text) [] p.after
      rw [List.append_nil, p.eq, Text.size_append] at hsplice
      rw [Change.leaves, ← List.append_assoc p.before, ← hsplice]
      rfl
  | deleted =>
      have hsplice := Edit.splice_at [] hash p.before p.text p.after
      rw [p.eq] at hsplice
      exact hsplice

theorem plan_passage {pattern : Text} {o : MatchOptions} {p : Passage content}
    (h : findMatch content pattern o = some p.toMatch) (change : Change) (hash : Text → UInt64) :
    plan content pattern o change hash =
      .ok (.edited (p.before ++ change.leaves p (LineEnding.detect content) ++ p.after)
        (Plan.summary content p.toMatch o.mode change)) := by
  rw [plan, h]
  simp only [splice_passage, Except.map]

/-! ## Both forms -/

/-- A replacement gets carriage returns with its indentation: what is replaced starts in a line
of blanks that has an end, and not all of the replacement is blank. -/
def Plan.TakesReturn (content : Text) (m : Match) : Change → Prop
  | .replaced t => '\n' ∈ Text.dropBytes m.span.start content ∧
      Text.allBlank (lineAround content m.span.start).2 ∧
      ∃ line ∈ Text.lines (LineEnding.normalize t), ¬ Text.allBlank line
  | _ => False

theorem takesReturn_replaced_iff (p : Passage content) (t : Text) :
    Plan.TakesReturn content p.toMatch (.replaced t) ↔ '\n' ∈ p.text ++ p.after ∧
      Text.allBlank p.firstLine ∧ ∃ line ∈ Text.lines (LineEnding.normalize t),
        ¬ Text.allBlank line := by
  have hdrop : Text.dropBytes p.toMatch.span.start content = p.text ++ p.after := by
    rw [Text.dropBytes, Passage.toMatch, Passage.splitAt?_start]
    rfl
  rw [Plan.TakesReturn, hdrop, Passage.toMatch, Passage.lineAround_start]

/-- What a replacement leaves has the other form, unless it gets a carriage return. -/
theorem leaves_replaced_iff (p : Passage content) (t : Text) :
    (Change.replaced t).leaves p.crlf .crlf = crlf.encode ((Change.replaced t).leaves p .lf) ↔
      ¬ Plan.TakesReturn content p.toMatch (.replaced t) := by
  have hindent : '\n' ∉ Text.indentOf p.firstLine := fun h =>
    p.not_mem_firstLine ((List.takeWhile_prefix _).mem h)
  rw [takesReturn_replaced_iff, Change.leaves, Change.leaves, Text.encode_reindent crlf hindent,
    Passage.firstLine_crlf]
  by_cases hfeed : '\n' ∈ p.text ++ p.after
  · rw [if_pos hfeed]
    by_cases hblank : Text.allBlank p.firstLine
    · have hlonger : Text.allBlank (p.firstLine ++ ['\r']) := by
        rw [Text.allBlank, List.all_append, Bool.and_eq_true]
        exact ⟨hblank, rfl⟩
      rw [Text.indentOf_of_allBlank hblank, Text.indentOf_of_allBlank hlonger]
      by_cases ht : ∃ line ∈ Text.lines (LineEnding.normalize t), ¬ Text.allBlank line
      · have hsize : Text.size p.firstLine < Text.size (p.firstLine ++ ['\r']) := by
          rw [Text.size_append]
          exact Nat.lt_add_of_pos_right (Nat.zero_lt_one)
        have hlt := Text.size_reindent_lt hsize .crlf ht
        exact iff_of_false (fun h => absurd (congrArg Text.size h) (Nat.ne_of_gt hlt))
          fun h => h ⟨hfeed, hblank, ht⟩
      · refine iff_of_true (Text.reindent_of_allBlank (fun line hline => ?_) _ _ _) fun h => ht h.2.2
        exact Classical.not_not.1 fun hne => ht ⟨line, hline, hne⟩
    · rw [Text.indentOf_append hblank]
      exact iff_of_true rfl fun h => hblank h.2.1
  · rw [if_neg hfeed]
    exact iff_of_true rfl fun h => hfeed h.1

theorem leaves_crlf_iff (p : Passage content) (change : Change) :
    change.leaves p.crlf .crlf = crlf.encode (change.leaves p .lf) ↔
      ¬ Plan.TakesReturn content p.toMatch change := by
  cases change with
  | replaced t => exact leaves_replaced_iff p t
  | before t =>
      refine iff_of_true ?_ id
      simp only [Change.leaves, encode_append, encode_prepare, terminator, encode_lineFeed]
      rfl
  | after t =>
      refine iff_of_true ?_ id
      simp only [Change.leaves, encode_append, encode_prepare, terminator, encode_lineFeed]
      rfl
  | deleted => exact iff_of_true rfl id

/-- A change that looks for whole lines finds them in a content without carriage returns
exactly if it finds them in its form with two characters at each end of a line.  What is planned
on the one is then the form of what is planned on the other, unless a replacement gets carriage
returns with its indentation. -/
theorem plan_crlf_iff {pattern : Text} {o : MatchOptions} (hreturn : '\r' ∉ content)
    (hfeed : '\n' ∈ content) (hmode : o.mode.takesLines) (hanchor : o.anchor = none)
    (change : Change) (hash : Text → UInt64) :
    ((∃ message, plan content pattern o change hash = .ok (.notFound message)) ↔
        ∃ message, plan (crlf.encode content) pattern o change hash = .ok (.notFound message)) ∧
      ∀ after summary, plan content pattern o change hash = .ok (.edited after summary) →
        ∃ m after' summary', findMatch content pattern o = some m ∧
          plan (crlf.encode content) pattern o change hash = .ok (.edited after' summary') ∧
          (after' = crlf.encode after ↔ ¬ Plan.TakesReturn content m change) := by
  obtain ⟨found, hfound, hfoundCrlf⟩ := findMatch_passage hreturn pattern o hmode hanchor
  refine ⟨?_, fun after summary hplan => ?_⟩
  · rw [plan_notFound_iff, plan_notFound_iff, hfound, hfoundCrlf, Option.map_eq_none_iff,
      Option.map_eq_none_iff]
  · cases found with
    | none =>
        rw [plan_of_none hfound] at hplan
        cases hplan
    | some p =>
        rw [plan_passage hfound, detect_of_not_mem hreturn] at hplan
        cases hplan
        refine ⟨p.toMatch, _, _, hfound, plan_passage hfoundCrlf change hash, ?_⟩
        rw [detect_crlf hfeed, ← leaves_crlf_iff, encode_append, encode_append]
        simp only [Passage.crlf, List.append_cancel_left_eq, List.append_cancel_right_eq]

/-- Three lines, of which the second is indented. -/
def threeLines : Text := ['a', '\n', ' ', 'b', '\n', 'c', '\n']

theorem plan_crlf_iff_secondLine : ∃ summary,
    plan (crlf.encode threeLines) ['2'] { mode := .lineRange } (.replaced ['x', '\n', 'y']) =
      .ok (.edited (crlf.encode ['a', '\n', ' ', 'x', '\n', ' ', 'y', '\n', 'c', '\n']) summary) := by
  have hreturn : '\r' ∉ threeLines := by decide
  have hfeed : '\n' ∈ threeLines := by decide
  have hlines : plan threeLines ['2'] { mode := .lineRange } (.replaced ['x', '\n', 'y']) =
      .ok (.edited ['a', '\n', ' ', 'x', '\n', ' ', 'y', '\n', 'c', '\n'] _) := rfl
  obtain ⟨m, after, summary, hfound, hplan, hform⟩ :=
    (plan_crlf_iff hreturn hfeed (by rfl) (by rfl) _ _).2 _ _ hlines
  have hkept : ¬ Plan.TakesReturn threeLines m (.replaced ['x', '\n', 'y']) := by
    have hmatch : findMatch threeLines ['2'] { mode := .lineRange } = some ⟨⟨2, 4⟩, [' ', 'b']⟩ := rfl
    obtain rfl := Option.some.inj (hfound.symm.trans hmatch)
    exact fun h => absurd h.2.1 (by decide)
  exact ⟨summary, by rw [hplan, hform.2 hkept]⟩

/-- A content with an empty second line. -/
def emptyLine : Text := ['a', '\n', '\n', 'b', '\n']

/-- A replacement of an empty line begins with a carriage return that nothing asks for. -/
theorem plan_crlf_emptyLine :
    '\r' ∉ emptyLine ∧ '\n' ∈ emptyLine ∧
      plan emptyLine ['2'] { mode := .lineRange } (.replaced ['x']) =
        .ok (.edited ['a', '\n', 'x', '\n', 'b', '\n'] "Replaced line 2 (mode: line_range)") ∧
      plan (crlf.encode emptyLine) ['2'] { mode := .lineRange } (.replaced ['x']) =
        .ok (.edited ['a', '\r', '\n', '\r', 'x', '\r', '\n', 'b', '\r', '\n']
          "Replaced line 2 (mode: line_range)") ∧
      (['a', '\r', '\n', '\r', 'x', '\r', '\n', 'b', '\r', '\n'] : Text) ≠
        crlf.encode ['a', '\n', 'x', '\n', 'b', '\n'] :=
  ⟨by decide, by decide, rfl, rfl, by decide⟩

end Emend
