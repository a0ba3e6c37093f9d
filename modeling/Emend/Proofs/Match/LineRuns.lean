import Emend.Proofs.Match.Passages
import Emend.Proofs.Match.Thresholds
import Emend.Proofs.Text.LineTexts
/-!
# Runs of lines

A strategy that finds whole lines finds a run of the lines of the content (`Match.Covers`,
`findMatch_covers`).

*Passages.*  Where each carriage return belongs to the end of a line, a run of lines is cut out of
the content so that whole lines are before it and after it (`Passage.IsRun`,
`Match.Covers.exists_passage`).

*The first run.*  In a content without carriage returns, the search for the same lines is a search
through the runs of as many lines as the pattern has.  It finds the first one with the
canonical form of the pattern, and finds one if there is any (`FirstRun`,
`Lines.firstRun_of_find`, `Lines.find_of_firstRun`).
-/

namespace Emend

open LineEnding Text

variable {content pattern : Text} {o : MatchOptions} {m : Match} {i j : Nat}

/-! ## What is found -/

/-- A match covers the lines from `i` to `j`, counted from zero: it starts with the first of them
and ends with the last one. -/
structure Match.Covers (m : Match) (content : Text) (i j : Nat) : Prop where
  /-- The lines come in order. -/
  ordered : i ≤ j
  /-- The match is at their place. -/
  span : ∃ first last, (lineSpans content)[i]? = some first ∧
    (lineSpans content)[j]? = some last ∧ m.span = ⟨first.start, last.stop⟩

theorem one_le_lines (t : Text) : 1 ≤ (lines t).length :=
  List.length_pos_iff.2 (splitOn_ne_nil _ _)

namespace Lines

theorem covers_of_candidate? {s : Span} (h : candidate? content pattern i = some s) :
    (Match.ofSpan content s).Covers content i (i + (lines pattern).length - 1) := by
  have hpos := one_le_lines pattern
  rw [candidate?, lineCount_eq] at h
  obtain ⟨first, hfirst, h⟩ := Option.bind_eq_some_iff.1 h
  obtain ⟨last, hlast, hspan⟩ := Option.bind_eq_some_iff.1 h
  exact ⟨by omega, first, last, hfirst, hlast, (Option.some.inj hspan).symm⟩

/-- There is a candidate at each line after which there are as many lines as the pattern has. -/
theorem exists_candidate?_iff : (∃ s, candidate? content pattern i = some s) ↔
    i + (lines pattern).length ≤ (lines content).length := by
  have hpos := one_le_lines pattern
  have hlength : (lineSpans content).length = (lines content).length := lineCount_eq content
  rw [candidate?, lineCount_eq]
  constructor
  · rintro ⟨s, h⟩
    obtain ⟨first, -, h⟩ := Option.bind_eq_some_iff.1 h
    obtain ⟨last, hlast, -⟩ := Option.bind_eq_some_iff.1 h
    obtain ⟨hlt, -⟩ := List.getElem?_eq_some_iff.1 hlast
    omega
  · intro h
    have hfirst := List.getElem?_eq_getElem (l := lineSpans content) (i := i) (by omega)
    have hlast := List.getElem?_eq_getElem (l := lineSpans content)
      (i := i + (lines pattern).length - 1) (by omega)
    exact ⟨_, Option.bind_eq_some_iff.2 ⟨_, hfirst, Option.bind_eq_some_iff.2 ⟨_, hlast, rfl⟩⟩⟩

theorem covers_of_candidate {s : Span} (h : s ∈ candidates content pattern) :
    ∃ i j, (Match.ofSpan content s).Covers content i j := by
  rw [candidates_eq] at h
  obtain ⟨i, -, hrun⟩ := List.mem_filterMap.1 h
  exact ⟨i, _, covers_of_candidate? hrun⟩

end Lines

theorem Literal.covers_of_findLines {first last : Nat}
    (hparse : parseLineRange? pattern = some (first, last))
    (h : findLines content pattern = some m) :
    1 ≤ first ∧ 1 ≤ last ∧ m.Covers content (first - 1) (last - 1) := by
  rw [findLines, hparse] at h
  obtain ⟨⟨hfirst, hlast⟩, h⟩ := Option.ite_none_right_eq_some.1 h
  obtain ⟨a, ha, h⟩ := Option.bind_eq_some_iff.1 h
  obtain ⟨b, hb, h⟩ := Option.bind_eq_some_iff.1 h
  cases h
  exact ⟨hfirst, by omega, by omega, a, b, ha, hb, rfl⟩

/-- Where whole lines are sought, what is found is a run of lines. -/
theorem findMatch_covers (hmode : o.mode.takesLines) (hanchor : o.anchor = none)
    (h : findMatch content pattern o = some m) : ∃ i j, m.Covers content i j := by
  have hfind : Lines.find content pattern o = some m → ∃ i j, m.Covers content i j := by
    intro hfind
    unfold Lines.find at hfind
    dsimp only at hfind
    split at hfind
    · cases hfind
    · obtain ⟨s, hs, rfl⟩ := Option.map_eq_some_iff.1 hfind
      exact Lines.covers_of_candidate (List.mem_of_find?_eq_some hs)
  simp only [findMatch, hanchor, findIn] at h
  cases hm : o.mode with
  | normalized => exact hfind (by simpa only [hm] using h)
  | fuzzy =>
      simp only [hm, Lines.findSimilar] at h
      split at h
      · exact hfind h
      split at h
      · cases h
      · obtain ⟨⟨score, s⟩, hbest, rfl⟩ := Option.map_eq_some_iff.1 h
        rcases mem_of_bestScored hbest with hnone | hs
        · cases hnone
        · exact Lines.covers_of_candidate hs
  | lineRange =>
      simp only [hm] at h
      cases hparse : Literal.parseLineRange? pattern with
      | none =>
          rw [Literal.findLines, hparse] at h
          cases h
      | some range => exact ⟨_, _, (Literal.covers_of_findLines hparse h).2.2⟩
  | tokenized | semantic | contains | regex => simp [hm, MatchMode.takesLines] at hmode

/-! ## Runs of lines as passages -/

/-- A passage is the run of lines from `i` to `j`. -/
structure Passage.IsRun (p : Passage content) (i j : Nat) : Prop where
  /-- The lines come in order. -/
  ordered : i ≤ j
  /-- Before it are the lines before its first one. -/
  before : p.before = ended ((lines content).take i)
  /-- It is made of its lines, of which the last has no end. -/
  text : ∃ row, (lines content)[j]? = some row ∧ '\r' ∉ dropReturn row ∧
    p.text = ended (((lines content).take j).drop i) ++ dropReturn row
  /-- After it is nothing, or the end of its last line and the lines after it. -/
  after : p.after = [] ∧ (lines content).drop (j + 1) = [] ∨
    (lines content).drop (j + 1) ≠ [] ∧ ∃ ending : LineEnding, p.after =
      ending.terminator ++ Text.join ['\n'] ((lines content).drop (j + 1))

theorem ended_take (hle : i ≤ j) : ended ((lines content).take j) =
    ended ((lines content).take i) ++ ended (((lines content).take j).drop i) := by
  have htake : (lines content).take j =
      (lines content).take i ++ ((lines content).take j).drop i := by
    conv_lhs => rw [← List.take_append_drop i ((lines content).take j)]
    rw [List.take_take, Nat.min_eq_left hle]
  conv_lhs => rw [htake]
  exact List.flatMap_append

theorem Match.Covers.exists_passage (hpaired : Paired content) (h : m.Covers content i j)
    (hexact : m.Exact content) : ∃ p : Passage content, m = p.toMatch ∧ p.IsRun i j := by
  obtain ⟨hle, first, last, hfirst, hlast, hspan⟩ := h
  rw [lineSpans_getElem?] at hfirst hlast
  obtain ⟨row, hrow, rfl⟩ := Option.map_eq_some_iff.1 hfirst
  obtain ⟨row', hrow', rfl⟩ := Option.map_eq_some_iff.1 hlast
  obtain ⟨hreturn, after, hcontent, hafter⟩ := exists_after hpaired hrow'
  let p : Passage content := {
    before := ended ((lines content).take i)
    text := ended (((lines content).take j).drop i) ++ dropReturn row'
    after := after
    eq := by
      conv_rhs => rw [hcontent, ended_take hle]
      simp only [List.append_assoc]
    starts := fun hne => getLast?_ended fun hnil => hne (by rw [hnil]; rfl) }
  have hp : p.span = m.span := by
    rw [hspan, ended_take hle, List.append_assoc, size_append _ (_ ++ _)]
    rfl
  refine ⟨p, ?_, hle, rfl, ⟨row', hrow', hreturn, rfl⟩, hafter⟩
  rw [← p.ofSpan_span, hp, Match.ofSpan, Span.text, Text.slice_eq hexact]

/-! ## The first run -/

theorem paired_of_not_mem (h : '\r' ∉ content) : Paired content :=
  fun before after heq => absurd (by simp [heq]) h

/-- The run of `n` lines that starts with line `i`, counted from zero, put together. -/
def Text.runOf (rows : List Text) (i n : Nat) : Text := Text.join ['\n'] ((rows.drop i).take n)

theorem Match.Covers.text_eq (hreturn : '\r' ∉ content) (hexact : m.Exact content)
    (h : m.Covers content i j) : m.text = runOf (lines content) i (j + 1 - i) := by
  obtain ⟨p, rfl, hle, -, ⟨row, hrow, -, htext⟩, -⟩ :=
    h.exists_passage (paired_of_not_mem hreturn) hexact
  obtain ⟨hj, rfl⟩ := List.getElem?_eq_some_iff.1 hrow
  have hkept : dropReturn (lines content)[j] = (lines content)[j] :=
    dropReturn_of_not_mem fun hmem =>
      hreturn (mem_of_mem_splitOn (List.getElem_mem hj) hmem)
  have hrows : ((lines content).drop i).take (j + 1 - i) =
      ((lines content).take j).drop i ++ [(lines content)[j]] := by
    rw [List.take_drop, Nat.add_sub_cancel' (by omega), drop_take_succ hle hj]
  rw [Passage.toMatch, htext, hkept, runOf, hrows, join_append _ (by simp)]
  rfl

/-- Line `i` is the first one with which a run of lines starts that has the canonical form of the
pattern. -/
structure FirstRun (content pattern : Text) (folding : Folding) (i : Nat) : Prop where
  /-- There are as many lines from there on as the pattern has. -/
  fits : i + (lines pattern).length ≤ (lines content).length
  /-- The run has the form of the pattern. -/
  same : canonical folding (runOf (lines content) i (lines pattern).length) =
    canonical folding pattern
  /-- No earlier run has it. -/
  first : ∀ j < i, canonical folding (runOf (lines content) j (lines pattern).length) ≠
    canonical folding pattern

theorem FirstRun.unique {folding : Folding} (hi : FirstRun content pattern folding i)
    (hj : FirstRun content pattern folding j) : i = j := by
  rcases Nat.lt_trichotomy i j with hlt | heq | hlt
  · exact absurd hi.same (hj.first i hlt)
  · exact heq
  · exact absurd hj.same (hi.first j hlt)

/-- Where a run has the form of the pattern, there is a first one. -/
theorem exists_firstRun {folding : Folding}
    (hfits : i + (lines pattern).length ≤ (lines content).length)
    (hsame : canonical folding (runOf (lines content) i (lines pattern).length) =
      canonical folding pattern) : ∃ j ≤ i, FirstRun content pattern folding j := by
  classical
  have hrun : ∃ j, canonical folding (runOf (lines content) j (lines pattern).length) =
      canonical folding pattern := ⟨i, hsame⟩
  have hle := Nat.find_min' hrun hsame
  exact ⟨Nat.find hrun, hle, by omega, Nat.find_spec hrun, fun j hj => Nat.find_min hrun hj⟩

namespace Lines

theorem mem_candidates {s : Span} (h : candidate? content pattern i = some s) :
    s ∈ candidates content pattern := by
  rw [candidates_eq]
  exact List.mem_filterMap.2 ⟨i, mem_range_of_candidate? h, h⟩

theorem text_of_candidate? (hreturn : '\r' ∉ content) {s : Span}
    (h : candidate? content pattern i = some s) :
    s.text content = runOf (lines content) i (lines pattern).length := by
  have hpos := one_le_lines pattern
  have hfits := Checked.candidates_fit content pattern s (mem_candidates h)
  have htext := (covers_of_candidate? h).text_eq hreturn (Checked.exact_ofSpan hfits)
  rwa [show i + (lines pattern).length - 1 + 1 - i = (lines pattern).length by omega] at htext

/-- In a content without carriage returns, what is found is the first run with the form of the
pattern. -/
theorem firstRun_of_find (hreturn : '\r' ∉ content) (h : find content pattern o = some m) :
    canonical o.folding pattern ≠ [] ∧ ∃ i s, candidate? content pattern i = some s ∧
      FirstRun content pattern o.folding i ∧ m = Match.ofSpan content s := by
  unfold find at h
  dsimp only at h
  split at h
  · cases h
  next hpattern =>
  obtain ⟨s, hs, rfl⟩ := Option.map_eq_some_iff.1 h
  rw [candidates_eq] at hs
  obtain ⟨i, hi, hequal, hbefore⟩ :=
    exists_first List.pairwise_lt_range (fun _ _ => mem_range_of_candidate?) hs
  have hfits := exists_candidate?_iff.1 ⟨s, hi⟩
  rw [beq_iff_eq, text_of_candidate? hreturn hi] at hequal
  refine ⟨by simpa using hpattern, i, s, hi, ⟨hfits, hequal, fun j hj => ?_⟩, rfl⟩
  obtain ⟨s', hs'⟩ := exists_candidate?_iff.2
    (show j + (lines pattern).length ≤ (lines content).length by omega)
  have hother := hbefore j s' hj hs'
  rwa [beq_eq_false_iff_ne, text_of_candidate? hreturn hs'] at hother

/-- Where there is a run with the form of the pattern, the first one is found. -/
theorem find_of_firstRun (hreturn : '\r' ∉ content) (hpattern : canonical o.folding pattern ≠ [])
    (hrun : FirstRun content pattern o.folding i) : ∃ s, candidate? content pattern i = some s ∧
      find content pattern o = some (Match.ofSpan content s) := by
  obtain ⟨s, hs⟩ := exists_candidate?_iff.2 hrun.fits
  have hequal : (canonical o.folding (s.text content) == canonical o.folding pattern) = true := by
    rw [beq_iff_eq, text_of_candidate? hreturn hs]
    exact hrun.same
  have hfound : (find content pattern o).isSome := by
    unfold find
    dsimp only
    rw [if_neg (by simpa using hpattern), Option.isSome_map, List.find?_isSome]
    exact ⟨s, mem_candidates hs, hequal⟩
  obtain ⟨m, hm⟩ := Option.isSome_iff_exists.1 hfound
  obtain ⟨-, j, s', hs', hfirst, rfl⟩ := firstRun_of_find hreturn hm
  obtain rfl := hrun.unique hfirst
  obtain rfl := Option.some.inj (hs.symm.trans hs')
  exact ⟨s, hs, hm⟩

end Lines

end Emend
