import Emend.Proofs.Run.Indentation
import Emend.Proofs.Run.WholeLines
import Emend.Proofs.Text.Lowercase
import Emend.Proofs.Text.Relaid
/-!
# Replacements of a text by itself

Lines are put in place of lines with the same canonical form, and what is put in has this form
again.  So a second replacement of the same kind finds a run, and finds it no later than the
first one did (`replaced_settles_iff`).

*The same run.*  If the second run is where the first one was, it is replaced by itself, unless
the text starts with a blank line.  A blank line is put in as it is, and then the lines
after it take over its indentation and no longer that of the content.

*An earlier run.*  If comments or empty lines do not count, lines that are put in may make an
earlier run match that takes some of them and some lines before them.  Otherwise the canonical form
of a text is made of the forms of its lines (`canonical_eq_join`), the lines of the new content have
the same forms as those of the old one, and so there is no earlier run.
-/

namespace Emend

open LineEnding Text

variable {content pattern t : Text} {o : MatchOptions} {i j : Nat}

/-! ## Replaced lines -/

theorem lineTexts_of_not_mem (h : '\r' ∉ content) : lineTexts content = lines content := by
  have hkept : ∀ row ∈ lines content, dropReturn row = row := fun row hrow =>
    dropReturn_of_not_mem fun hmem => h (mem_of_mem_splitOn hrow hmem)
  rw [lineTexts_eq, List.map_congr_left hkept, List.map_id']

theorem head?_lines (t : Text) : (lines t).head? = some (Text.before (· == '\n') t) := by
  induction t with
  | nil => rfl
  | cons c t ih =>
      rw [lines, splitOn, Text.before]
      split
      · next hc => simp [hc]
      · next hc =>
        cases hlines : splitOn '\n' t with
        | nil => exact absurd hlines (splitOn_ne_nil _ _)
        | cons line rest =>
            rw [lines, hlines, Text.before] at ih
            simp only [List.head?_cons, Option.some.injEq] at ih
            simp [hc, ih]

namespace Passage.IsRun

variable {p : Passage content} (hreturn : '\r' ∉ content) (h : p.IsRun i j)

include hreturn h

theorem firstLine_eq : (lines content)[i]? = some p.firstLine := by
  have hrest : '\r' ∉ p.text ++ p.after := fun hmem => hreturn (by
    rw [← p.eq, List.append_assoc]
    exact List.mem_append_right _ hmem)
  have hlines := h.lineTexts_rest
  rw [lineTexts_of_not_mem hrest, lineTexts_of_not_mem hreturn] at hlines
  rw [← List.head?_drop, ← hlines, head?_lines]
  rfl

theorem lines_put (ht : '\r' ∉ t) : '\r' ∉ p.before ++ t ++ p.after ∧
    lines (p.before ++ t ++ p.after) =
      (lines content).take i ++ lines t ++ (lines content).drop (j + 1) := by
  have hput : '\r' ∉ p.before ++ t ++ p.after := by
    rw [← p.eq] at hreturn
    simp only [List.mem_append, not_or] at hreturn ⊢
    exact ⟨⟨hreturn.1.1, ht⟩, hreturn.2⟩
  have hends : t.getLast? ≠ some '\r' := fun hlast => ht (List.mem_of_getLast? hlast)
  refine ⟨hput, ?_⟩
  rw [← lineTexts_of_not_mem hput, ← lineTexts_of_not_mem ht, ← lineTexts_of_not_mem hreturn,
    List.append_assoc, h.lineTexts_before, h.lineTexts_after hends, List.append_assoc]

end Passage.IsRun

theorem lines_join_map {f : Text → Text} (hf : ∀ line ∈ lines t, '\n' ∉ f line) :
    lines (Text.join ['\n'] ((lines t).map f)) = (lines t).map f := by
  refine splitOn_join (mt List.map_eq_nil_iff.1 (splitOn_ne_nil '\n' t)) fun row hrow => ?_
  obtain ⟨line, hline, rfl⟩ := List.mem_map.1 hrow
  exact hf line hline

theorem lines_reindent {indent : Text} (hindent : '\n' ∉ indent) (ht : '\r' ∉ t) :
    lines (reindent indent .lf t) = (lines t).map (reindentLine indent) := by
  rw [reindent, normalize_of_not_mem ht, terminator, lines_join_map]
  exact fun line hline => not_mem_reindentLine hindent (not_mem_of_mem_lines hline)

theorem not_mem_reindent {c : Char} (hc : c ≠ '\n') {indent : Text} (hindent : c ∉ indent)
    (ht : '\r' ∉ t) (hmem : c ∉ t) : c ∉ reindent indent .lf t := by
  rw [reindent, normalize_of_not_mem ht, terminator]
  intro h
  rcases mem_join h with h | ⟨row, hrow, h⟩
  · exact hc (List.mem_singleton.1 h)
  · obtain ⟨line, hline, rfl⟩ := List.mem_map.1 hrow
    have hout : c ∉ line := fun h => hmem (mem_of_mem_splitOn hline h)
    rw [reindentLine] at h
    split at h
    · exact hout h
    · exact (List.mem_append.1 h).elim hindent fun h => hout ((List.dropWhile_suffix _).mem h)

/-- The first run of lines with the form of the pattern is replaced, and the new lines have the
indentation of its first line. -/
theorem plan_replaced_lines (hmode : o.mode = .normalized) (hanchor : o.anchor = none)
    (hcontent : '\r' ∉ content) (ht : '\r' ∉ t) (hpattern : canonical o.folding pattern ≠ [])
    (hrun : FirstRun content pattern o.folding i) {row : Text}
    (hrow : (lines content)[i]? = some row) (hash : Text → UInt64) :
    ∃ m after, findMatch content pattern o = some m ∧
      m.Covers content i (i + (lines pattern).length - 1) ∧
      plan content pattern o (.replaced t) hash =
        .ok (.edited after (Plan.summary content m o.mode (.replaced t))) ∧
      '\r' ∉ after ∧ lines after = (lines content).take i ++
        (lines t).map (reindentLine (indentOf row)) ++
          (lines content).drop (i + (lines pattern).length) := by
  have hpos := one_le_lines pattern
  obtain ⟨s, hs, hfound⟩ := Lines.find_of_firstRun hcontent hpattern hrun
  have hcovers := Lines.covers_of_candidate? hs
  have hmatch : findMatch content pattern o = some (Match.ofSpan content s) := by
    simp only [findMatch, hanchor, findIn, hmode]
    exact hfound
  obtain ⟨p, hp, hisRun⟩ :=
    hcovers.exists_passage (paired_of_not_mem hcontent) (exact_of_findMatch hmatch)
  rw [hp] at hmatch hcovers
  obtain rfl : p.firstLine = row :=
    Option.some.inj ((hisRun.firstLine_eq hcontent).symm.trans hrow)
  have hfirst : '\r' ∉ indentOf p.firstLine := by
    refine not_mem_indentOf fun hmem => hcontent ?_
    exact mem_of_mem_splitOn (List.mem_of_getElem? hrow) hmem
  have hput := hisRun.lines_put hcontent
    (not_mem_reindent (by decide) hfirst ht ht : '\r' ∉ reindent (indentOf p.firstLine) .lf t)
  have hplan := plan_passage hmatch (.replaced t) hash
  rw [detect_of_not_mem hcontent] at hplan
  refine ⟨_, _, hmatch, hcovers, hplan, hput.1, ?_⟩
  rw [Change.leaves, hput.2, lines_reindent (not_mem_indentOf p.not_mem_firstLine) ht,
    Nat.sub_add_cancel (by omega)]

/-! ## Forms of lines -/

/-- The canonical form of a line, in small letters if case does not count. -/
def Folding.line (folding : Folding) (line : Text) : Text :=
  if folding.caseSensitive then canonicalLine line else lowercase (canonicalLine line)

theorem not_mem_line (folding : Folding) (line : Text) : '\n' ∉ folding.line line := by
  rw [Folding.line]
  split
  · exact not_mem_canonicalLine line
  · exact not_mem_lowercase (not_mem_canonicalLine line)

variable {folding : Folding}

/-- Where comments and empty lines count, the canonical form of a text is made of the forms of its
lines. -/
theorem canonical_eq_join (hcomments : folding.ignoreComments = false)
    (hempty : folding.ignoreEmptyLines = false) (ht : '\r' ∉ t) :
    canonical folding t = Text.join ['\n'] ((lines t).map folding.line) := by
  simp only [canonical, hcomments, hempty, normalize_of_not_mem ht, Bool.false_eq_true, if_false]
  cases hcase : folding.caseSensitive with
  | true =>
      have hline : folding.line = canonicalLine := by
        funext line
        rw [Folding.line, hcase, if_pos rfl]
      rw [if_pos rfl, hline]
  | false =>
      have hline : folding.line = lowercase ∘ canonicalLine := by
        funext line
        rw [Folding.line, hcase]
        rfl
      rw [if_neg Bool.false_ne_true, lowercase_join, List.map_map, hline]

theorem forms_eq_of_canonical_eq (hcomments : folding.ignoreComments = false)
    (hempty : folding.ignoreEmptyLines = false) {u : Text} (ht : '\r' ∉ t) (hu : '\r' ∉ u)
    (h : canonical folding t = canonical folding u) :
    (lines t).map folding.line = (lines u).map folding.line := by
  have hback : ∀ v, lines (Text.join ['\n'] ((lines v).map folding.line)) =
      (lines v).map folding.line := fun v => lines_join_map fun line _ => not_mem_line folding line
  rw [canonical_eq_join hcomments hempty ht, canonical_eq_join hcomments hempty hu] at h
  rw [← hback t, h, hback]

/-! ## The second run -/

theorem not_mem_runOf {c : Char} (hc : c ≠ '\n') (h : c ∉ content) (j n : Nat) :
    c ∉ runOf (lines content) j n := by
  intro hmem
  rcases mem_join hmem with hmem | ⟨row, hrow, hmem⟩
  · exact hc (List.mem_singleton.1 hmem)
  · exact h (mem_of_mem_splitOn (List.mem_of_mem_drop (List.mem_of_mem_take hrow)) hmem)

theorem lines_runOf {n : Nat} (hn : 1 ≤ n) (hfits : j + n ≤ (lines content).length) :
    lines (runOf (lines content) j n) = ((lines content).drop j).take n := by
  refine splitOn_join ?_ fun row hrow =>
    not_mem_of_mem_lines (List.mem_of_mem_drop (List.mem_of_mem_take hrow))
  rw [Ne, ← List.length_eq_zero_iff, List.length_take, List.length_drop]
  omega

/-- Contents whose lines have the same forms have the same first run. -/
theorem FirstRun.of_forms_eq {c : Text} (hcomments : folding.ignoreComments = false)
    (hempty : folding.ignoreEmptyLines = false) (hcontent : '\r' ∉ content) (hc : '\r' ∉ c)
    (hforms : (lines c).map folding.line = (lines content).map folding.line)
    (h : FirstRun content pattern folding i) : FirstRun c pattern folding i := by
  have hpos := one_le_lines pattern
  have hlength : (lines c).length = (lines content).length := by
    have hlengths := congrArg List.length hforms
    rwa [List.length_map, List.length_map] at hlengths
  have hrun : ∀ {t j}, '\r' ∉ t → j + (lines pattern).length ≤ (lines t).length →
      canonical folding (runOf (lines t) j (lines pattern).length) =
        Text.join ['\n'] ((((lines t).map folding.line).drop j).take (lines pattern).length) := by
    intro t j ht hfits
    rw [canonical_eq_join hcomments hempty (not_mem_runOf (by decide) ht j _),
      lines_runOf hpos hfits, List.map_take, List.map_drop]
  have hfits := h.fits
  have hsame : ∀ j ≤ i, canonical folding (runOf (lines c) j (lines pattern).length) =
      canonical folding (runOf (lines content) j (lines pattern).length) := by
    intro j hj
    rw [hrun hc (by omega), hrun hcontent (by omega), hforms]
  refine ⟨by omega, ?_, fun j hj => ?_⟩
  · rw [hsame i (Nat.le_refl i)]
    exact h.same
  · rw [hsame j (Nat.le_of_lt hj)]
    exact h.first j hj

theorem eq_of_lines_eq {t u : Text} (h : lines t = lines u) : t = u := by
  rw [← join_splitOn '\n' t, ← lines, h, lines, join_splitOn]

/-- To indent lines once more like the first one of them changes nothing, unless that one is
blank. -/
theorem map_reindentLine_eq_iff {indent first : Text} (hindent : allBlank indent) :
    (lines t).map (reindentLine indent) =
        (lines t).map (reindentLine (indentOf (reindentLine indent first))) ↔
      ¬ allBlank first ∨ first = indent ∨ ∀ line ∈ lines t, allBlank line := by
  by_cases hblank : allBlank first
  · have hkept : indentOf (reindentLine indent first) = first := by
      rw [reindentLine, if_pos hblank, indentOf_of_allBlank hblank]
    rw [hkept, List.map_inj_left]
    constructor
    · intro hsame
      by_cases hall : ∀ line ∈ lines t, allBlank line
      · exact .inr (.inr hall)
      · simp only [not_forall] at hall
        obtain ⟨line, hline, hsolid⟩ := hall
        have hlead := hsame line hline
        rw [reindentLine, reindentLine, if_neg hsolid, if_neg hsolid] at hlead
        exact .inr (.inl (List.append_cancel_right hlead).symm)
    · rintro (hsolid | rfl | hall) line hline
      · exact absurd hblank hsolid
      · rfl
      · rw [reindentLine, reindentLine, if_pos (hall line hline), if_pos (hall line hline)]
  · have hgiven := indentOf_reindentLine hindent hblank []
    rw [List.append_nil] at hgiven
    rw [hgiven]
    exact iff_of_true rfl (.inl hblank)

/-- What is put in has the form of the pattern, so there is a first run in the new content, too, and
it is no later one. -/
theorem exists_second_run {row c : Text} (hcontent : '\r' ∉ content) (ht : '\r' ∉ t)
    (hrun : FirstRun content t folding i) (hrow : (lines content)[i]? = some row)
    (hlines : lines c = (lines content).take i ++ (lines t).map (reindentLine (indentOf row)) ++
      (lines content).drop (i + (lines t).length)) :
    ((lines c).drop i).take (lines t).length = (lines t).map (reindentLine (indentOf row)) ∧
      ∃ j ≤ i, FirstRun c t folding j := by
  have hfits := hrun.fits
  have hmem : row ∈ lines content := List.mem_of_getElem? hrow
  have hblank := allBlank_indentOf row
  have hfeed : '\n' ∉ indentOf row := not_mem_indentOf (not_mem_of_mem_lines hmem)
  have hplain : '\r' ∉ indentOf row :=
    not_mem_indentOf fun h => hcontent (mem_of_mem_splitOn hmem h)
  have htake : ((lines content).take i).length = i := by
    rw [List.length_take]
    omega
  have hput : ((lines c).drop i).take (lines t).length =
      (lines t).map (reindentLine (indentOf row)) := by
    rw [hlines, List.append_assoc, List.drop_left' htake, List.take_left' (List.length_map _)]
  have hlength : (lines c).length = (lines content).length := by
    rw [hlines]
    simp only [List.length_append, List.length_map, htake, List.length_drop]
    omega
  refine ⟨hput, exists_firstRun (by omega) ?_⟩
  -- The run that has been put in is the pattern with another indentation.
  have hrelaid := (relaid_reindent hblank hfeed ht).canonical_eq ht
    (not_mem_reindent (by decide) hplain ht ht) folding
  rw [runOf, hput, hrelaid, reindent, normalize_of_not_mem ht]
  rfl

/-- Where comments and empty lines count, the lines that are put in have the forms of those that
they replace. -/
theorem forms_put {row c : Text} (hcomments : folding.ignoreComments = false)
    (hempty : folding.ignoreEmptyLines = false) (hcontent : '\r' ∉ content) (ht : '\r' ∉ t)
    (hrun : FirstRun content t folding i) (hrow : (lines content)[i]? = some row)
    (hlines : lines c = (lines content).take i ++ (lines t).map (reindentLine (indentOf row)) ++
      (lines content).drop (i + (lines t).length)) :
    (lines c).map folding.line = (lines content).map folding.line := by
  have hmem : row ∈ lines content := List.mem_of_getElem? hrow
  have hfeed : '\n' ∉ indentOf row := not_mem_indentOf (not_mem_of_mem_lines hmem)
  have hplain : '\r' ∉ indentOf row :=
    not_mem_indentOf fun h => hcontent (mem_of_mem_splitOn hmem h)
  have hreturn := not_mem_reindent (by decide) hplain ht ht
  have hput : ((lines t).map (reindentLine (indentOf row))).map folding.line =
      (lines t).map folding.line := by
    rw [← lines_reindent hfeed ht]
    have hrelaid := relaid_reindent (allBlank_indentOf row) hfeed ht
    exact forms_eq_of_canonical_eq hcomments hempty hreturn ht
      (hrelaid.canonical_eq ht hreturn folding).symm
  have htaken : (((lines content).drop i).take (lines t).length).map folding.line =
      (lines t).map folding.line := by
    rw [← lines_runOf (one_le_lines t) hrun.fits]
    exact forms_eq_of_canonical_eq hcomments hempty (not_mem_runOf (by decide) hcontent _ _) ht
      hrun.same
  calc (lines c).map folding.line
      = ((lines content).take i ++ ((lines content).drop i).take (lines t).length ++
          (lines content).drop (i + (lines t).length)).map folding.line := by
        rw [hlines, List.map_append, List.map_append, List.map_append, List.map_append, hput,
          htaken]
    _ = (lines content).map folding.line := by
        rw [← List.drop_drop, List.append_assoc, List.take_append_drop, List.take_append_drop]

/-- Lines that are put in place of others leave a content as it is exactly if they are those. -/
theorem eq_iff_of_lines_put {c c' : Text} {n : Nat} {rows : List Text}
    (h : lines c' = (lines c).take j ++ rows ++ (lines c).drop (j + n)) :
    c' = c ↔ ((lines c).drop j).take n = rows := by
  have hcut : lines c = (lines c).take j ++ ((lines c).drop j).take n ++
      (lines c).drop (j + n) := by
    rw [← List.drop_drop, List.append_assoc, List.take_append_drop, List.take_append_drop]
  constructor
  · intro heq
    rw [heq] at h
    exact List.append_cancel_left (List.append_cancel_right (hcut.symm.trans h))
  · intro heq
    rw [← heq, ← hcut] at h
    exact eq_of_lines_eq h

/-- A content that is changed has a first run of lines with the form of the pattern. -/
theorem exists_firstRun_of_plan (hmode : o.mode = .normalized) (hanchor : o.anchor = none)
    (hcontent : '\r' ∉ content) {change : Change} {hash : Text → UInt64} {c : Text}
    {summary : String}
    (hplan : plan content pattern o change hash = .ok (.edited c summary)) :
    canonical o.folding pattern ≠ [] ∧
      ∃ i row, FirstRun content pattern o.folding i ∧ (lines content)[i]? = some row := by
  have hpos := one_le_lines pattern
  cases hfound : findMatch content pattern o with
  | none =>
      rw [plan_of_none hfound] at hplan
      cases hplan
  | some m =>
      have hfind : Lines.find content pattern o = some m := by
        simpa only [findMatch, hanchor, findIn, hmode] using hfound
      obtain ⟨hpattern, i, -, -, hrun, -⟩ := Lines.firstRun_of_find hcontent hfind
      have hfits := hrun.fits
      exact ⟨hpattern, i, _, hrun, List.getElem?_eq_getElem (by omega)⟩

/-- A text that is replaced by itself is found again afterwards, in the same place or in an earlier
one.  The second replacement changes nothing exactly if the lines that it takes are indented
like the first of them.  In the same place they are, unless the text starts with a blank line that
is not the indentation of the line that was matched first; and it is the same place if comments
and empty lines count. -/
theorem replaced_settles_iff (hmode : o.mode = .normalized) (hanchor : o.anchor = none)
    (hcontent : '\r' ∉ content) (ht : '\r' ∉ t) {hash : Text → UInt64} {c : Text} {summary : String}
    (hplan : plan content t o (.replaced t) hash = .ok (.edited c summary)) :
    ∃ i row j row' c' m, FirstRun content t o.folding i ∧ (lines content)[i]? = some row ∧
      FirstRun c t o.folding j ∧ (lines c)[j]? = some row' ∧ j ≤ i ∧
      plan c t o (.replaced t) hash =
        .ok (.edited c' (Plan.summary c m o.mode (.replaced t))) ∧
      (c' = c ↔ ((lines c).drop j).take (lines t).length =
        (lines t).map (reindentLine (indentOf row'))) ∧
      (j = i → (c' = c ↔ ∃ first, (lines t).head? = some first ∧
        (¬ allBlank first ∨ first = indentOf row ∨ ∀ line ∈ lines t, allBlank line))) ∧
      (o.folding.ignoreComments = false → o.folding.ignoreEmptyLines = false → j = i) := by
  have hpos := one_le_lines t
  obtain ⟨hpattern, i, row, hrun, hrow⟩ := exists_firstRun_of_plan hmode hanchor hcontent hplan
  obtain ⟨m', c', -, -, hplan', hreturn, hlines⟩ :=
    plan_replaced_lines hmode hanchor hcontent ht hpattern hrun hrow hash
  obtain rfl : c' = c := by
    rw [hplan'] at hplan
    cases hplan
    rfl
  obtain ⟨hput, j, hle, hrun'⟩ := exists_second_run hcontent ht hrun hrow hlines
  have hfits' := hrun'.fits
  obtain ⟨row', hrow'⟩ : ∃ row', (lines c')[j]? = some row' :=
    ⟨_, List.getElem?_eq_getElem (by omega)⟩
  obtain ⟨m₂, c₂, -, -, hplan₂, -, hlines₂⟩ :=
    plan_replaced_lines hmode hanchor hreturn ht hpattern hrun' hrow' hash
  have hsame := eq_iff_of_lines_put hlines₂
  refine ⟨i, row, j, row', c₂, m₂, hrun, hrow, hrun', hrow', hle, hplan₂, hsame, ?_, ?_⟩
  · rintro rfl
    obtain ⟨first, hfirst⟩ : ∃ first, (lines t).head? = some first := ⟨_, head?_lines t⟩
    have hhead : row' = reindentLine (indentOf row) first := by
      have htaken := congrArg List.head? hput
      rw [List.head?_take, if_neg (by omega), List.head?_drop, hrow', List.head?_map, hfirst]
        at htaken
      exact Option.some.inj htaken
    rw [hsame, hput, hhead, map_reindentLine_eq_iff (allBlank_indentOf row)]
    constructor
    · exact fun h => ⟨first, hfirst, h⟩
    · rintro ⟨other, hother, h⟩
      obtain rfl := Option.some.inj (hfirst.symm.trans hother)
      exact h
  · intro hcomments hempty
    refine (FirstRun.of_forms_eq hcomments hempty hreturn hcontent ?_ hrun').unique hrun
    exact (forms_put hcomments hempty hcontent ht hrun hrow hlines).symm

/-- With the default options, the first replacement indents the line after a blank one like the
content, and the second one like the blank line. -/
theorem replaced_twice_blankFirst :
    let content : Text := "    foo\n".toList
    let again : Text := "\n    foo".toList
    let last : Text := "\nfoo".toList
    ∃ summary summary', plan content last {} (.replaced last) = .ok (.edited again summary) ∧
      plan again last {} (.replaced last) = .ok (.edited last summary') ∧ last ≠ again :=
  ⟨_, _, rfl, rfl, by decide⟩

/-- A second replacement in an earlier place: the empty line before a line is taken for the one
after it. -/
example : ∃ summary summary',
    plan "\n\nfoo".toList "foo\n".toList {} (.replaced "foo\n".toList) =
        .ok (.edited "\nfoo\n".toList summary) ∧
      plan "\nfoo\n".toList "foo\n".toList {} (.replaced "foo\n".toList) =
        .ok (.edited "foo\n\n".toList summary') :=
  ⟨_, _, rfl, rfl⟩

theorem replaced_settles_iff_indented :
    ∃ summary summary', plan "\tfoo \nbar".toList "foo".toList {} (.replaced "foo".toList) =
        .ok (.edited "\tfoo\nbar".toList summary) ∧
      plan "\tfoo\nbar".toList "foo".toList {} (.replaced "foo".toList) =
        .ok (.edited "\tfoo\nbar".toList summary') := by
  have hplan : plan "\tfoo \nbar".toList "foo".toList {} (.replaced "foo".toList) =
      .ok (.edited "\tfoo\nbar".toList _) := rfl
  obtain ⟨i, row, j, row', c', m, hrun, -, hrun', -, hle, hplan', -, hsettled, -⟩ :=
    replaced_settles_iff rfl rfl (by decide) (by decide) hplan
  have hfirst : i = 0 := by
    have hfits := hrun.fits
    have hplace : FirstRun "\tfoo \nbar".toList "foo".toList ({} : MatchOptions).folding 0 :=
      ⟨by decide, rfl, fun j hj => absurd hj (Nat.not_lt_zero j)⟩
    exact hrun.unique hplace
  obtain rfl := (hsettled (by omega)).2 ⟨_, rfl, .inl (by decide)⟩
  exact ⟨_, _, hplan, hplan'⟩

end Emend
