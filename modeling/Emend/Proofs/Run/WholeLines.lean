import Emend.Proofs.Match.LineRuns
import Emend.Proofs.Run.LineStyle
/-!
# Changes of whole lines

A strategy that finds whole lines finds a run of lines, before and after which there are whole
lines (`Passage.IsRun`).  So lines that are put in come between the lines of the content, whatever
the ends of the lines are and whether or not the last line has one; and lines that are deleted
leave one empty line (`changes_whole_lines`).
-/

namespace Emend

open LineEnding Text

variable {content pattern : Text} {o : MatchOptions} {m : Match} {i j : Nat}

namespace Passage.IsRun

variable {p : Passage content} (h : p.IsRun i j)

include h

theorem lineTexts_before (t : Text) :
    lineTexts (p.before ++ t) = (lineTexts content).take i ++ lineTexts t := by
  have hfeed : ∀ row ∈ (lines content).take i, '\n' ∉ row := fun row hrow =>
    not_mem_of_mem_lines (List.mem_of_mem_take hrow)
  rw [h.before, lineTexts_ended hfeed, lineTexts_eq content, List.map_take]

/-- From its first line on, there are the lines of the passage and those after it. -/
theorem lineTexts_rest : lineTexts (p.text ++ p.after) = (lineTexts content).drop i := by
  have htexts := h.lineTexts_before (p.text ++ p.after)
  rw [← List.append_assoc, p.eq] at htexts
  have hlength : ((lineTexts content).take i).length = i := by
    obtain ⟨_, hrow, -⟩ := h.text
    obtain ⟨hj, -⟩ := List.getElem?_eq_some_iff.1 hrow
    rw [List.length_take, lineTexts_eq, List.length_map]
    exact Nat.min_eq_left (Nat.le_trans h.ordered (Nat.le_of_lt hj))
  conv_rhs => rw [htexts]
  rw [List.drop_left' hlength]

theorem lineTexts_through (ending : LineEnding) (t : Text) :
    lineTexts (p.before ++ p.text ++ ending.terminator ++ t) =
      (lineTexts content).take (j + 1) ++ lineTexts t := by
  obtain ⟨row, hrow, hreturn, htext⟩ := h.text
  obtain ⟨hj, rfl⟩ := List.getElem?_eq_some_iff.1 hrow
  have hlast : p.before ++ p.text =
      ended ((lines content).take j) ++ dropReturn (lines content)[j] := by
    rw [h.before, htext, ended_take h.ordered, List.append_assoc]
  have hfeed : ∀ row ∈ (lines content).take j, '\n' ∉ row := fun row hrow =>
    not_mem_of_mem_lines (List.mem_of_mem_take hrow)
  have hrowFeed : '\n' ∉ dropReturn (lines content)[j] := fun hmem => by
    obtain ⟨tail, htail⟩ := append_of_dropReturn (lines content)[j]
    exact not_mem_of_mem_lines (List.getElem_mem hj) (htail ▸ List.mem_append_left _ hmem)
  have hends : (p.before ++ p.text).getLast? ≠ some '\r' := by
    rw [hlast]
    intro hend
    rcases List.mem_append.1 (List.mem_of_getLast? hend) with hmem | hmem
    · by_cases hrow : dropReturn (lines content)[j] = []
      · rw [hrow, List.append_nil] at hend
        by_cases hnil : (lines content).take j = []
        · rw [hnil] at hend
          cases hend
        · rw [getLast?_ended hnil] at hend
          cases hend
      · rw [List.getLast?_append_of_ne_nil _ hrow] at hend
        exact hreturn (List.mem_of_getLast? hend)
    · exact hreturn hmem
  have htaken : (lineTexts content).take (j + 1) =
      ((lines content).take j).map dropReturn ++ [dropReturn (lines content)[j]] := by
    rw [lineTexts_eq, ← List.map_take, List.take_succ_eq_append_getElem hj, List.map_append]
    rfl
  have hrowTexts : lineTexts (dropReturn (lines content)[j]) =
      [dropReturn (lines content)[j]] := by
    rw [lineTexts_eq, lines, splitOn_of_not_mem hrowFeed]
    exact congrArg (fun row => [row]) (dropReturn_of_not_mem hreturn)
  rw [lineTexts_terminated ending hends, hlast, lineTexts_ended hfeed, htaken, hrowTexts]

/-- After a text that ends no line, what comes after the passage goes on with the lines after it. -/
theorem lineTexts_after {t : Text} (ht : t.getLast? ≠ some '\r') :
    lineTexts (t ++ p.after) = lineTexts t ++ (lineTexts content).drop (j + 1) := by
  have hdrop : (lineTexts content).drop (j + 1) =
      ((lines content).drop (j + 1)).map dropReturn := by rw [lineTexts_eq, List.map_drop]
  rcases h.after with ⟨hafter, hnil⟩ | ⟨hne, ending, hafter⟩
  · rw [hafter, hdrop, hnil, List.append_nil, List.map_nil, List.append_nil]
  · have hfeed : ∀ row ∈ (lines content).drop (j + 1), '\n' ∉ row := fun row hrow =>
      not_mem_of_mem_lines (List.mem_of_mem_drop hrow)
    rw [hafter, ← List.append_assoc, lineTexts_terminated ending ht, hdrop,
      lineTexts_eq (Text.join _ _), lines, splitOn_join hne hfeed]

/-! ## Changed lines -/

variable (ending : LineEnding) (t : Text)

theorem lineTexts_before_leaves :
    lineTexts (p.before ++ (Change.before t).leaves p ending ++ p.after) =
      (lineTexts content).take i ++ lines (normalize t) ++ (lineTexts content).drop i := by
  have hends := getLast?_prepare_ne ending t
  calc lineTexts (p.before ++ (Change.before t).leaves p ending ++ p.after)
      = lineTexts (p.before ++ (ending.prepare t ++ ending.terminator ++ (p.text ++ p.after))) := by
        simp only [Change.leaves, List.append_assoc]
    _ = (lineTexts content).take i ++ (lineTexts (ending.prepare t) ++
          lineTexts (p.text ++ p.after)) := by
        rw [h.lineTexts_before, lineTexts_terminated ending hends]
    _ = (lineTexts content).take i ++ lines (normalize t) ++ (lineTexts content).drop i := by
        rw [lineTexts_prepare, h.lineTexts_rest, List.append_assoc]

theorem lineTexts_after_leaves :
    lineTexts (p.before ++ (Change.after t).leaves p ending ++ p.after) =
      (lineTexts content).take (j + 1) ++ lines (normalize t) ++
        (lineTexts content).drop (j + 1) := by
  have hends := getLast?_prepare_ne ending t
  calc lineTexts (p.before ++ (Change.after t).leaves p ending ++ p.after)
      = lineTexts (p.before ++ p.text ++ ending.terminator ++ (ending.prepare t ++ p.after)) := by
        simp only [Change.leaves, List.append_assoc]
    _ = (lineTexts content).take (j + 1) ++ (lineTexts (ending.prepare t) ++
          (lineTexts content).drop (j + 1)) := by
        rw [h.lineTexts_through, h.lineTexts_after hends]
    _ = (lineTexts content).take (j + 1) ++ lines (normalize t) ++
          (lineTexts content).drop (j + 1) := by
        rw [lineTexts_prepare, List.append_assoc]

theorem lineTexts_deleted_leaves :
    lineTexts (p.before ++ Change.deleted.leaves p ending ++ p.after) =
      (lineTexts content).take i ++ [[]] ++ (lineTexts content).drop (j + 1) := by
  have hnil := h.lineTexts_after (t := []) (by simp)
  rw [Change.leaves, List.append_nil, h.lineTexts_before, List.append_assoc]
  exact congrArg _ hnil

end Passage.IsRun

/-- Where whole lines are found, lines are put in between the lines of the content, and a deletion
leaves one empty line of what was found. -/
theorem changes_whole_lines (hpaired : Paired content) (hmode : o.mode.takesLines)
    (hanchor : o.anchor = none) (hfound : findMatch content pattern o = some m) (t : Text)
    (hash : Text → UInt64) :
    (∃ i j, m.Covers content i j) ∧ ∀ i j, m.Covers content i j →
      (∃ after, plan content pattern o (.before t) hash =
          .ok (.edited after (Plan.summary content m o.mode (.before t))) ∧
        lineTexts after =
          (lineTexts content).take i ++ lines (normalize t) ++ (lineTexts content).drop i) ∧
      (∃ after, plan content pattern o (.after t) hash =
          .ok (.edited after (Plan.summary content m o.mode (.after t))) ∧
        lineTexts after = (lineTexts content).take (j + 1) ++ lines (normalize t) ++
          (lineTexts content).drop (j + 1)) ∧
      ∃ after, plan content pattern o .deleted hash =
          .ok (.edited after (Plan.summary content m o.mode .deleted)) ∧
        lineTexts after =
          (lineTexts content).take i ++ [[]] ++ (lineTexts content).drop (j + 1) := by
  refine ⟨findMatch_covers hmode hanchor hfound, fun i j hcovers => ?_⟩
  obtain ⟨p, rfl, hrun⟩ := hcovers.exists_passage hpaired (exact_of_findMatch hfound)
  exact ⟨⟨_, plan_passage hfound _ hash, hrun.lineTexts_before_leaves _ t⟩,
    ⟨_, plan_passage hfound _ hash, hrun.lineTexts_after_leaves _ t⟩,
    ⟨_, plan_passage hfound _ hash, hrun.lineTexts_deleted_leaves _⟩⟩

/-- Two lines that end in different ways, of which the second is empty, and a third without end. -/
def mixedLines : Text := ['a', '\r', '\n', '\n', 'b']

theorem changes_whole_lines_mixed : ∃ after,
    plan mixedLines ['2', '-', '3'] { mode := .lineRange } (.after ['x', '\n', '\n']) =
      .ok (.edited after "Inserted 2 lines after line 3 (mode: line_range)") ∧
    lineTexts after = [['a'], [], ['b'], ['x'], [], []] := by
  have hfound : findMatch mixedLines ['2', '-', '3'] { mode := .lineRange } =
      some ⟨⟨3, 5⟩, ['\n', 'b']⟩ := by rfl
  have hcovers : Match.Covers ⟨⟨3, 5⟩, ['\n', 'b']⟩ mixedLines 1 2 :=
    ⟨by decide, ⟨3, 3⟩, ⟨4, 5⟩, by rfl, by rfl, by rfl⟩
  obtain ⟨-, hchange⟩ := changes_whole_lines (by decide) (by rfl) (by rfl) hfound
    ['x', '\n', '\n'] Text.digest
  obtain ⟨-, ⟨after, hplan, htexts⟩, -⟩ := hchange 1 2 hcovers
  exact ⟨after, hplan, htexts⟩

end Emend
