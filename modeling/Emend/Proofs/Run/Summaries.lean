import Emend.Proofs.Match.LineRuns
import Emend.Proofs.Run.LineStyle
/-!
# The lines that a summary names

A summary numbers the lines of a match from its text, without the line breaks at its end.  Where
whole lines are found, the first line that it names is the first one of the match.  Empty lines at
the end of the match have nothing but line breaks, so they do not count: the last line that is
named is the last one that is not empty (`LastFull`), or the first one if all are empty
(`summary_names_lines`).
-/

namespace Emend

open LineEnding Text

variable {content pattern : Text} {o : MatchOptions} {m : Match} {i j k : Nat}

/-- Of the lines from `i` to `j`, line `k` is the last one that is not empty, or the first one if
there is none. -/
structure LastFull (texts : List Text) (i j k : Nat) : Prop where
  /-- It is not before the first line. -/
  first_le : i ≤ k
  /-- It is not after the last line. -/
  le_last : k ≤ j
  /-- The lines after it are empty. -/
  empty : ∀ n, k < n → n ≤ j → texts[n]? = some []
  /-- It is not empty, unless it is the first one. -/
  full : k = i ∨ texts[k]? ≠ some []

/-- The last line that counts is the last one exactly if that is the only one or not empty. -/
theorem LastFull.eq_last_iff {texts : List Text} (h : LastFull texts i j k) :
    k = j ↔ i = j ∨ texts[j]? ≠ some [] := by
  constructor
  · rintro rfl
    exact h.full.imp_left Eq.symm
  · intro hlast
    rcases Nat.lt_or_eq_of_le h.le_last with hlt | heq
    · rcases hlast with rfl | hfull
      · exact absurd h.first_le (Nat.not_le_of_lt hlt)
      · exact absurd (h.empty j hlt (Nat.le_refl j)) hfull
    · exact heq

/-- What is said of a change of the lines from `first` to `last`, counted from one. -/
def Change.told (mode : MatchMode) (first last : Nat) (change : Change) : String :=
  let named := if first = last then s!"line {first}" else s!"lines {first}-{last}"
  let done := match change with
    | .replaced _ => "Replaced " ++ named
    | .before t => "Inserted " ++ Plan.lineNoun t ++ s!" before line {first}"
    | .after t => "Inserted " ++ Plan.lineNoun t ++ s!" after line {last}"
    | .deleted => "Deleted " ++ named
  done ++ " (mode: " ++ mode.name ++ ")"

theorem Plan.summary_eq (content : Text) (m : Match) (mode : MatchMode) (change : Change) :
    Plan.summary content m mode change =
      change.told mode (lineNumberAt m.span.start content) (Plan.lastLine content m) := by
  cases change <;> rfl

/-! ## Line breaks at the end -/

/-- The characters that do not count at the end of a match. -/
def isBreak (c : Char) : Bool := c == '\r' || c == '\n'

theorem LastFull.append_nil {texts : List Text} {n : Nat} (h : LastFull texts 0 n k)
    (hn : n + 1 = texts.length) : LastFull (texts ++ [[]]) 0 (n + 1) k where
  first_le := h.first_le
  le_last := Nat.le_succ_of_le h.le_last
  empty := by
    intro l hkl hln
    rcases Nat.lt_or_eq_of_le hln with hlt | rfl
    · rw [List.getElem?_append_left (by omega)]
      exact h.empty l hkl (Nat.le_of_lt_succ hlt)
    · rw [hn, List.getElem?_concat_length]
  full := by
    have hk := h.le_last
    rw [List.getElem?_append_left (by omega)]
    exact h.full

/-- The last line that counts is the same one in all lines as in those from `i` to `j`. -/
theorem LastFull.of_drop_take {texts : List Text} {n : Nat} (hij : i ≤ j)
    (h : LastFull ((texts.take (j + 1)).drop i) 0 (j - i) n) : LastFull texts i j (i + n) := by
  have hkept : ∀ l, l ≤ j - i → ((texts.take (j + 1)).drop i)[l]? = texts[i + l]? := by
    intro l hl
    rw [List.getElem?_drop, List.getElem?_take_of_lt (by omega)]
  have hn := h.le_last
  refine ⟨Nat.le_add_right i n, by omega, fun l hl hlj => ?_, ?_⟩
  · have hempty := h.empty (l - i) (by omega) (by omega)
    rwa [hkept _ (by omega), Nat.add_sub_cancel' (by omega)] at hempty
  · rw [← hkept n hn]
    exact h.full.imp_left (congrArg (i + ·))

theorem dropEndWhile_break {front row : Text} :
    dropEndWhile isBreak (front ++ row ++ ['\n']) =
      dropEndWhile isBreak (front ++ dropReturn row) := by
  rw [dropEndWhile_concat (by rfl)]
  cases hdrop : beforeTail? ['\r'] row with
  | none => rw [dropReturn, hdrop, Option.getD_none]
  | some kept =>
      rw [dropReturn, hdrop, Option.getD_some, beforeTail?_eq_some hdrop, ← List.append_assoc,
        dropEndWhile_concat (by rfl)]

/-- If the last line is not empty, nothing is taken away. -/
theorem lastFull_of_ne_nil {rows : List Text} (hrows : ∀ row ∈ rows, '\n' ∉ row) {last : Text}
    (hfeed : '\n' ∉ last) (hreturn : '\r' ∉ last) (hlast : last ≠ []) :
    LastFull (rows.map dropReturn ++ [last]) 0 rows.length
      ((dropEndWhile isBreak (ended rows ++ last)).count '\n') := by
  have hkept : dropEndWhile isBreak (ended rows ++ last) = ended rows ++ last := by
    refine dropEndWhile_eq_self fun c hc => ?_
    rw [List.getLast?_append_of_ne_nil _ hlast] at hc
    have hmem := List.mem_of_getLast? hc
    have hne : c ≠ '\r' ∧ c ≠ '\n' := ⟨fun h => hreturn (h ▸ hmem), fun h => hfeed (h ▸ hmem)⟩
    simp [isBreak, hne]
  rw [hkept, List.count_append, count_ended hrows, List.count_eq_zero.2 hfeed, Nat.add_zero]
  refine ⟨Nat.zero_le _, Nat.le_refl _, by intro n hn hle; omega, .inr ?_⟩
  rw [List.getElem?_append_right (by simp)]
  simpa using hlast

/-- Of lines that are put together, those up to the last one that is not empty are left when the
line breaks at the end are taken away. -/
theorem lastFull_ended {rows : List Text} (hrows : ∀ row ∈ rows, '\n' ∉ row)
    (hreturns : ∀ row ∈ rows, '\r' ∉ dropReturn row) {last : Text} (hfeed : '\n' ∉ last)
    (hreturn : '\r' ∉ last) : LastFull (rows.map dropReturn ++ [last]) 0 rows.length
      ((dropEndWhile isBreak (ended rows ++ last)).count '\n') := by
  induction rows using List.reverseRecOn generalizing last with
  | nil =>
      by_cases hlast : last = []
      · subst hlast
        exact ⟨Nat.le_refl 0, Nat.le_refl 0, fun n hn hle => absurd hn (Nat.not_lt_of_le hle),
          .inl rfl⟩
      · exact lastFull_of_ne_nil hrows hfeed hreturn hlast
  | append_singleton rows row ih =>
      by_cases hlast : last = []
      · subst hlast
        obtain ⟨hrows, hrow⟩ := List.forall_mem_append.1 hrows
        obtain ⟨hreturns, hrowReturn⟩ := List.forall_mem_append.1 hreturns
        obtain ⟨tail, htail⟩ := append_of_dropReturn row
        have hrowFeed : '\n' ∉ dropReturn row := fun h =>
          hrow row (List.mem_singleton_self row) (htail ▸ List.mem_append_left _ h)
        have hrest := ih hrows hreturns hrowFeed (hrowReturn row (List.mem_singleton_self row))
        have hended : ended (rows ++ [row]) ++ [] = ended rows ++ row ++ ['\n'] := by simp [ended]
        rw [hended, dropEndWhile_break, List.map_append, List.length_append]
        exact hrest.append_nil (by simp)
      · exact lastFull_of_ne_nil hrows hfeed hreturn hlast

/-! ## Runs of lines -/

namespace Passage.IsRun

variable {p : Passage content} (h : p.IsRun i j)

include h

theorem count_before : p.before.count '\n' = i := by
  obtain ⟨row, hrow, -, -⟩ := h.text
  obtain ⟨hj, -⟩ := List.getElem?_eq_some_iff.1 hrow
  have hordered := h.ordered
  rw [h.before, count_ended_take (by omega)]

theorem lineNumberAt_start : lineNumberAt p.span.start content = i + 1 := by
  have hnumber := lineNumberAt_size p.before (p.text ++ p.after)
  rwa [← List.append_assoc, p.eq, h.count_before] at hnumber

theorem lineNumberAt_body {body rest : Text} (hbody : body ++ rest = p.text) :
    lineNumberAt (p.span.start + size body) content = i + body.count '\n' + 1 := by
  have hnumber := lineNumberAt_size (p.before ++ body) (rest ++ p.after)
  rw [size_append, List.count_append, h.count_before] at hnumber
  rwa [← List.append_assoc, List.append_assoc _ body, hbody, p.eq] at hnumber

theorem exists_lastLine (hpaired : Paired content) : ∃ k, LastFull (lineTexts content) i j k ∧
    Plan.lastLine content p.toMatch = k + 1 := by
  obtain ⟨row, hrow, hreturn, htext⟩ := h.text
  obtain ⟨hj, rfl⟩ := List.getElem?_eq_some_iff.1 hrow
  have hordered := h.ordered
  have hmem : ∀ row ∈ ((lines content).take j).drop i, row ∈ lines content := fun row hrow =>
    List.mem_of_mem_take (List.mem_of_mem_drop hrow)
  have hreturns : ∀ row ∈ lines content, '\r' ∉ dropReturn row := by
    intro row hrow
    obtain ⟨n, hn⟩ := List.mem_iff_getElem?.1 hrow
    exact (exists_after hpaired hn).1
  have hfeed : '\n' ∉ dropReturn (lines content)[j] := fun hmem => by
    obtain ⟨tail, htail⟩ := append_of_dropReturn (lines content)[j]
    exact not_mem_of_mem_lines (List.getElem_mem hj) (htail ▸ List.mem_append_left _ hmem)
  have hlast := lastFull_ended (fun row hrow => not_mem_of_mem_lines (hmem row hrow))
    (fun row hrow => hreturns row (hmem row hrow)) hfeed hreturn
  have htexts :
      (((lines content).take j).drop i).map dropReturn ++ [dropReturn (lines content)[j]] =
        ((lineTexts content).take (j + 1)).drop i := by
    rw [lineTexts_eq, ← List.map_take, ← List.map_drop, drop_take_succ hordered hj,
      List.map_append, List.map_singleton]
  have hlength : (((lines content).take j).drop i).length = j - i := by
    rw [List.length_drop, List.length_take]
    omega
  rw [htexts, hlength, ← htext] at hlast
  refine ⟨_, hlast.of_drop_take hordered, ?_⟩
  have hprefix := List.rdropWhile_prefix isBreak p.text
  rw [← dropEndWhile_eq_rdropWhile] at hprefix
  obtain ⟨rest, hrest⟩ := hprefix
  exact h.lineNumberAt_body hrest

end Passage.IsRun

/-- An edit of a file that succeeds says what the summary of its plan says. -/
theorem Session.message_editFile {s : Session} {path : Path} {bytes : Bytes} {change : Change}
    {after : Text} {summary : String} (hfile : s.file? path = some bytes)
    (hdecode : Utf8.decode bytes = .ok content)
    (hplan : plan content pattern o change s.hash = .ok (.edited after summary))
    (h : (s.editFile path pattern o change).2.status = .success) :
    (s.editFile path pattern o change).2.message = summary := by
  simp only [editFile, hfile, hdecode, hplan] at h ⊢
  split at h
  · cases h
  next hchanged =>
  rw [if_neg hchanged]
  rw [save] at h ⊢
  generalize s.write path (Utf8.encode after) = written at h ⊢
  obtain ⟨s', result⟩ := written
  cases result with
  | ok done => rfl
  | error fault => cases h

/-- Where whole lines are found, a summary names the first line of the match, and as the last one
the last line of the match that is not empty, or the first one if all are empty.  So all lines of
the match are named exactly if there is only one or the last one is not empty; and a successful edit
of a file says what the summary says. -/
theorem summary_names_lines (hpaired : Paired content) (hmode : o.mode.takesLines)
    (hanchor : o.anchor = none) (hfound : findMatch content pattern o = some m) :
    (∃ i j, m.Covers content i j) ∧ ∀ i j, m.Covers content i j →
      ∃ k, LastFull (lineTexts content) i j k ∧
        (k = j ↔ i = j ∨ (lineTexts content)[j]? ≠ some []) ∧
        ∀ change : Change,
          (∀ hash, ∃ after, plan content pattern o change hash =
            .ok (.edited after (change.told o.mode (i + 1) (k + 1)))) ∧
          ∀ (s : Session) path bytes, s.file? path = some bytes →
            Utf8.decode bytes = .ok content →
            (s.editFile path pattern o change).2.status = .success →
            (s.editFile path pattern o change).2.message =
              change.told o.mode (i + 1) (k + 1) := by
  refine ⟨findMatch_covers hmode hanchor hfound, fun i j hcovers => ?_⟩
  obtain ⟨p, rfl, hrun⟩ := hcovers.exists_passage hpaired (exact_of_findMatch hfound)
  obtain ⟨k, hlast, hnumber⟩ := hrun.exists_lastLine hpaired
  refine ⟨k, hlast, hlast.eq_last_iff, fun change => ?_⟩
  have hplan : ∀ hash, ∃ after, plan content pattern o change hash =
      .ok (.edited after (change.told o.mode (i + 1) (k + 1))) := by
    intro hash
    have hedited := plan_passage hfound change hash
    rw [Plan.summary_eq, hnumber] at hedited
    rw [← hrun.lineNumberAt_start]
    exact ⟨_, hedited⟩
  refine ⟨hplan, fun s path bytes hfile hdecode hsuccess => ?_⟩
  obtain ⟨after, hedited⟩ := hplan s.hash
  exact Session.message_editFile hfile hdecode hedited hsuccess

/-- Three lines, of which the second is empty. -/
def middleEmpty : Text := ['a', '\n', '\n', 'b']

theorem summary_names_lines_middleEmpty : ∃ after,
    plan middleEmpty ['2', '-', '3'] { mode := .lineRange } .deleted =
      .ok (.edited after "Deleted lines 2-3 (mode: line_range)") := by
  have hfound : findMatch middleEmpty ['2', '-', '3'] { mode := .lineRange } =
      some ⟨⟨2, 4⟩, ['\n', 'b']⟩ := by rfl
  have hcovers : Match.Covers ⟨⟨2, 4⟩, ['\n', 'b']⟩ middleEmpty 1 2 :=
    ⟨by decide, ⟨2, 2⟩, ⟨3, 4⟩, by rfl, by rfl, by rfl⟩
  obtain ⟨-, hnames⟩ := summary_names_lines (by decide) (by rfl) (by rfl) hfound
  obtain ⟨k, -, hall, htold⟩ := hnames 1 2 hcovers
  obtain rfl : k = 2 := hall.2 (.inr (by decide))
  exact (htold .deleted).1 Text.digest

/-- If the last line of the match is empty, it is not named: what is put in after line 2 is said
to be after line 1. -/
theorem summary_misses_middleEmpty :
    Paired middleEmpty ∧ ∃ m, findMatch middleEmpty ['1', '-', '2'] { mode := .lineRange } = some m ∧
      m.Covers middleEmpty 0 1 ∧
      plan middleEmpty ['1', '-', '2'] { mode := .lineRange } (.after ['x']) =
        .ok (.edited ['a', '\n', '\n', 'x', '\n', 'b']
          "Inserted 1 line after line 1 (mode: line_range)") ∧
      (Change.after ['x']).told .lineRange 1 2 = "Inserted 1 line after line 2 (mode: line_range)" ∧
      plan middleEmpty ['1', '-', '2'] { mode := .lineRange } (.replaced ['x']) =
        .ok (.edited ['x', '\n', 'b'] "Replaced line 1 (mode: line_range)") ∧
      (Change.replaced ['x']).told .lineRange 1 2 = "Replaced lines 1-2 (mode: line_range)" :=
  ⟨by decide, ⟨⟨0, 2⟩, ['a', '\n']⟩, by rfl, ⟨by decide, ⟨0, 1⟩, ⟨2, 2⟩, by rfl, by rfl, by rfl⟩,
    by rfl, by rfl, by rfl, by rfl⟩

end Emend
