import Emend.Proofs.Run.Plan
import Emend.Proofs.Text.LineTexts
/-!
# The indentation of replacements

A replacement is indented like the line in which what it replaces starts.

*Lines.*  A place in a content comes after whole lines and the part of a line before it
(`exists_last`), and that part and what follows make the line of the place
(`Plan.lineAround_lead`).

*Replacements.*  Each line of a replacement that is not blank begins with that indentation and
goes on with what it has after its own (`Text.reindentLine`).  The first one comes after what
is kept of its line, so it gets the part of the indentation that is not there already
(`Plan.reindented_lead`, `replaced_takes_indentation`).
-/

namespace Emend

open LineEnding

namespace Text

/-! ## Indented lines -/

theorem trimStart_ne_nil {line : Text} (h : ¬ allBlank line) : trimStart line ≠ [] := by
  intro hnil
  rw [trimStart, List.dropWhile_eq_nil_iff] at hnil
  exact h (List.all_eq_true.2 hnil)

/-- A line that is not blank has the indentation that it is given, whatever follows it. -/
theorem indentOf_reindentLine {indent line : Text} (hindent : allBlank indent)
    (hline : ¬ allBlank line) (tail : Text) :
    indentOf (reindentLine indent line ++ tail) = indent := by
  obtain ⟨c, rest, hrest⟩ := List.exists_cons_of_ne_nil (trimStart_ne_nil hline)
  have hc : ¬ isBlank c := by
    have hhead := List.head?_dropWhile_not isBlank line
    rw [trimStart] at hrest
    simpa [hrest] using hhead
  rw [reindentLine, if_neg hline, hrest, List.append_assoc, List.cons_append, indentOf,
    List.takeWhile_append_of_pos (List.all_eq_true.1 hindent), List.takeWhile_cons_of_neg hc,
    List.append_nil]

/-- The indentation of a line is what leads the line and the rest of the indentation, if it goes
on that far. -/
theorem append_drop_indentOf {lead tail : Text}
    (h : lead.length ≤ (indentOf (lead ++ tail)).length) :
    lead ++ (indentOf (lead ++ tail)).drop lead.length = indentOf (lead ++ tail) := by
  have hlead : lead <+: indentOf (lead ++ tail) :=
    List.prefix_of_prefix_length_le (List.prefix_append _ _) (List.takeWhile_prefix _) h
  obtain ⟨rest, hrest⟩ := hlead
  rw [← hrest, List.drop_left]

/-- What follows a lead of the line within its indentation. -/
theorem afterLead?_indentOf (lead tail : Text) :
    (afterLead? lead (indentOf (lead ++ tail))).getD [] =
      (indentOf (lead ++ tail)).drop lead.length := by
  by_cases h : lead.length ≤ (indentOf (lead ++ tail)).length
  · rw [afterLead?_iff.2 (append_drop_indentOf h).symm]
    rfl
  · have hdrop : (indentOf (lead ++ tail)).drop lead.length = [] :=
      List.drop_eq_nil_of_le (Nat.le_of_not_le h)
    rw [hdrop]
    cases hlead : afterLead? lead (indentOf (lead ++ tail)) with
    | none => rfl
    | some rest =>
        rw [afterLead?_iff.1 hlead, List.length_append] at h
        exact absurd (Nat.le_add_right _ _) h

/-! ## Lines put together -/

/-- Lines that are put together are lines again, and what follows them goes on with the last
one. -/
theorem lines_join_append {rows : List Text} (h : ∀ row ∈ rows, '\n' ∉ row) (t : Text) {n : Nat}
    {row : Text} (hrow : rows[n]? = some row) :
    ∃ tail, (lines (join ['\n'] rows ++ t))[n]? = some (row ++ tail) := by
  induction rows generalizing n with
  | nil => cases hrow
  | cons first rest ih =>
      obtain ⟨hfirst, hrest⟩ := List.forall_mem_cons.1 h
      by_cases hnil : rest = []
      · subst hnil
        obtain ⟨rfl, rfl⟩ : n = 0 ∧ first = row := by
          cases n with
          | zero => exact ⟨rfl, Option.some.inj hrow⟩
          | succ n => cases hrow
        obtain ⟨tail, more, hlines⟩ := lines_append_of_not_mem hfirst t
        exact ⟨tail, by rw [join, hlines]; rfl⟩
      · have hlines : lines (join ['\n'] (first :: rest) ++ t) =
            first :: lines (join ['\n'] rest ++ t) := by
          rw [join_cons _ _ hnil, List.append_assoc, List.append_assoc, List.singleton_append,
            lines, splitOn_append, splitOn_of_not_mem hfirst]
          rfl
        rw [hlines]
        cases n with
        | zero => exact ⟨[], by rw [List.append_nil]; exact hrow⟩
        | succ n => exact ih hrest hrow

theorem join_head (lead row : Text) (rows : List Text) :
    lead ++ join ['\n'] (row :: rows) = join ['\n'] ((lead ++ row) :: rows) := by
  cases rows with
  | nil => rfl
  | cons next rows =>
      rw [join_cons _ _ (List.cons_ne_nil _ _), join_cons _ _ (List.cons_ne_nil _ _)]
      simp only [List.append_assoc]

end Text

namespace Plan

open Text

variable {rows : List Text} {lead : Text}

/-! ## The line of a place -/

/-- A place that comes after whole lines and a lead without line feed is in the line of the
lead. -/
theorem lineAround_lead (hrows : ∀ row ∈ rows, '\n' ∉ row) (hlead : '\n' ∉ lead) (rest : Text) :
    lineAround (ended rows ++ lead ++ rest) (size (ended rows ++ lead)) =
      (lead, lead ++ Text.before (· == '\n') rest) := by
  have hlast : ((lines (ended rows ++ lead)).getLast?).getD [] = lead := by
    rw [lines_ended hrows, lines, splitOn_of_not_mem hlead]
    simp
  simp only [lineAround, splitAt?_size, hlast]

/-- A replacement whose first line is not blank gets the indentation of the line on each line
that is not blank, and on its first one the part of it that is replaced. -/
theorem reindented_lead (hrows : ∀ row ∈ rows, '\n' ∉ row) (hlead : '\n' ∉ lead) (rest : Text)
    {t first : Text} {more : List Text} (hlines : lines (normalize t) = first :: more)
    (hfirst : ¬ allBlank first) :
    reindented (ended rows ++ lead ++ rest) (size (ended rows ++ lead)) t .lf =
      join ['\n']
        (((indentOf (lead ++ Text.before (· == '\n') rest)).drop lead.length ++ trimStart first) ::
          more.map (reindentLine (indentOf (lead ++ Text.before (· == '\n') rest)))) := by
  have hgiven := afterLead?_indentOf lead (Text.before (· == '\n') rest)
  rw [reindented, lineAround_lead hrows hlead]
  dsimp only
  generalize indentOf (lead ++ Text.before (· == '\n') rest) = indent at hgiven ⊢
  have htext : reindent indent .lf t =
      indent ++ join ['\n'] (trimStart first :: more.map (reindentLine indent)) := by
    rw [reindent, hlines, List.map_cons, reindentLine, if_neg hfirst, join_head]
    rfl
  rw [htext, afterLead?_iff.2 rfl]
  dsimp only
  split
  · next hempty =>
    rw [List.isEmpty_iff.1 hempty, List.drop_nil]
    rfl
  · rw [hgiven, join_head]

end Plan

/-! ## Replacements -/

open Text

/-- A replacement is put in with the indentation of the line in which the match starts: its first
line with the part of the indentation that the match covers, and each later one that is not blank
with all of it.  If the match starts within the indentation, each line that is not blank ends up
with this indentation. -/
theorem replaced_takes_indentation {content pattern : Text} {o : MatchOptions} {m : Match}
    (hreturn : '\r' ∉ content) (hfound : findMatch content pattern o = some m)
    {t first : Text} {more : List Text} (hlines : lines (normalize t) = first :: more)
    (hfirst : ¬ allBlank first) (hash : Text → UInt64) :
    ∃ rows lead after, content = ended rows ++ lead ++ m.text ++ after ∧
      size (ended rows ++ lead) = m.span.start ∧ (∀ row ∈ rows, '\n' ∉ row) ∧ '\n' ∉ lead ∧
      ∃ indent text, indent = indentOf (lead ++ Text.before (· == '\n') (m.text ++ after)) ∧
        text = join ['\n'] ((indent.drop lead.length ++ trimStart first) ::
          more.map (reindentLine indent)) ∧
        plan content pattern o (.replaced t) hash =
          .ok (.edited (ended rows ++ lead ++ text ++ after)
            (Plan.summary content m o.mode (.replaced t))) ∧
        (lead.length ≤ indent.length →
          ∀ n row, (first :: more)[n]? = some row → ¬ allBlank row →
            ∃ line, (lines (ended rows ++ lead ++ text ++ after))[rows.length + n]? = some line ∧
              indentOf line = indent) := by
  obtain ⟨before, after, hcontent, hstart, -, hplan⟩ :=
    plan_of_match (.replaced t) hash hfound
  have htext : (Change.place m (.replaced t)).text content = m.text :=
    Text.slice_eq (exact_of_findMatch hfound)
  obtain ⟨rows, lead, rfl, -, hrows, hlead⟩ := exists_last before
  rw [htext] at hcontent
  have hput := Plan.reindented_lead hrows hlead (m.text ++ after) hlines hfirst
  rw [← List.append_assoc, ← hcontent, hstart] at hput
  refine ⟨rows, lead, after, hcontent, hstart, hrows, hlead, _, _, rfl, rfl, ?_, ?_⟩
  · rw [hplan, Change.text, detect_of_not_mem hreturn, ← hput]
    rfl
  · intro hwithin n row hrow hblank
    have hindent := append_drop_indentOf hwithin
    have hfeed : '\n' ∉ indentOf (lead ++ Text.before (· == '\n') (m.text ++ after)) := by
      refine not_mem_indentOf fun h => (List.mem_append.1 h).elim hlead fun h => ?_
      simpa using List.mem_takeWhile_imp h
    have hblanks := allBlank_indentOf (lead ++ Text.before (· == '\n') (m.text ++ after))
    generalize indentOf (lead ++ Text.before (· == '\n') (m.text ++ after)) = indent
      at hwithin hindent hfeed hblanks ⊢
    have hmap : ∀ line ∈ (first :: more).map (reindentLine indent), '\n' ∉ line := by
      intro line hline
      obtain ⟨row, hrow, rfl⟩ := List.mem_map.1 hline
      exact not_mem_reindentLine hfeed (not_mem_of_mem_lines (hlines ▸ hrow))
    -- With the lead before it, the first line is indented like the others.
    have hwhole : lead ++ join ['\n'] ((indent.drop lead.length ++ trimStart first) ::
        more.map (reindentLine indent)) =
        join ['\n'] ((first :: more).map (reindentLine indent)) := by
      rw [join_head, ← List.append_assoc, hindent, List.map_cons, reindentLine, if_neg hfirst]
    obtain ⟨tail, htail⟩ := lines_join_append hmap after (n := n) (by
      rw [List.getElem?_map, hrow]
      rfl)
    refine ⟨_, ?_, indentOf_reindentLine hblanks hblank tail⟩
    rw [List.append_assoc (ended rows), hwhole, List.append_assoc, lines_ended hrows,
      List.getElem?_append_right (Nat.le_add_right _ _), Nat.add_sub_cancel_left, htail]

/-- A line that is indented by two spaces, after another one. -/
def indentedLine : Text := ['a', '\n', ' ', ' ', 'b', '\n']

theorem replaced_takes_indentation_within :
    ∃ rows lead after, indentedLine = ended rows ++ lead ++ [' ', 'b'] ++ after ∧
      size (ended rows ++ lead) = 3 ∧ (∀ row ∈ rows, '\n' ∉ row) ∧ '\n' ∉ lead ∧
      ∃ indent text, indent = indentOf (lead ++ Text.before (· == '\n') ([' ', 'b'] ++ after)) ∧
        text = join ['\n'] [indent.drop lead.length ++ ['x'], [' '], indent ++ ['y']] ∧
        plan indentedLine [' ', 'b'] { mode := .contains }
            (.replaced ['\t', 'x', '\r', '\n', ' ', '\n', 'y']) =
          .ok (.edited (ended rows ++ lead ++ text ++ after)
            "Replaced line 2 (mode: contains)") := by
  have hfound : findMatch indentedLine [' ', 'b'] { mode := .contains } =
      some ⟨⟨3, 5⟩, [' ', 'b']⟩ := by rfl
  have hlines : lines (normalize ['\t', 'x', '\r', '\n', ' ', '\n', 'y']) =
      ['\t', 'x'] :: [[' '], ['y']] := by decide
  obtain ⟨rows, lead, after, hcontent, hstart, hrows, hlead, indent, text, hindent, htext, hplan,
    -⟩ := replaced_takes_indentation (by decide) hfound hlines (by decide) Text.digest
  exact ⟨rows, lead, after, hcontent, hstart, hrows, hlead, indent, text, hindent, htext, hplan⟩

end Emend
