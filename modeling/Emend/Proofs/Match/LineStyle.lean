import Emend.Proofs.Match.LineRuns
import Emend.Proofs.Text.Numbers
/-!
# Searches in both styles

Where whole lines are sought, neither the style of the content nor that of the pattern counts
(`findMatch_crlf`).

*Patterns.*  A pattern has the same canonical form, as many lines and the same line numbers in both
styles, so the same is found (`findMatch_pattern`).

*Contents.*  What is found in the form of a content with two characters at each end of a line is the
form of the passage that is found in the content, and it covers the same lines
(`Passage.covers_crlf_iff`).
-/

namespace Emend

open LineEnding Text

namespace Text

/-! ## Line numbers in a text -/

theorem trimStart_crlf (t : Text) : trimStart (crlf.encode t) = crlf.encode (trimStart t) := by
  induction t with
  | nil => rfl
  | cons c t ih =>
      unfold trimStart at ih ⊢
      by_cases hc : isBlank c
      · rw [List.dropWhile_cons_of_pos hc, ← ih]
        by_cases hfeed : c = '\n'
        · subst hfeed
          rfl
        · rw [encode_cons_of_ne crlf hfeed, List.dropWhile_cons_of_pos hc]
      · have hfeed : c ≠ '\n' := fun h => hc (by rw [h]; rfl)
        rw [encode_cons_of_ne crlf hfeed, List.dropWhile_cons_of_neg hc,
          List.dropWhile_cons_of_neg hc, encode_cons_of_ne crlf hfeed]

theorem trimEnd_crlf (t : Text) : trimEnd (crlf.encode t) = crlf.encode (trimEnd t) := by
  induction t using List.reverseRecOn with
  | nil => rfl
  | append_singleton t c ih =>
      unfold trimEnd at ih ⊢
      rw [encode_append]
      by_cases hfeed : c = '\n'
      · subst hfeed
        have hreturn : crlf.terminator = ['\r'] ++ ['\n'] := rfl
        rw [encode_lineFeed, hreturn, ← List.append_assoc, dropEndWhile_concat (by rfl),
          dropEndWhile_concat (by rfl), dropEndWhile_concat (by rfl), ih]
      · have hsame : crlf.encode [c] = [c] :=
          encode_of_not_mem crlf (by simpa using Ne.symm hfeed)
        rw [hsame]
        by_cases hc : isBlank c
        · rw [dropEndWhile_concat hc, dropEndWhile_concat hc, ih]
        · have hkept : ∀ u : Text, dropEndWhile isBlank (u ++ [c]) = u ++ [c] := fun u =>
            dropEndWhile_eq_self fun d hd => by
              rw [List.getLast?_concat, Option.some.injEq] at hd
              rwa [← hd]
          rw [hkept, hkept, encode_append, hsame]

theorem trim_crlf (t : Text) : trim (crlf.encode t) = crlf.encode (trim t) := by
  rw [trim, trimStart_crlf, trimEnd_crlf, trim]

theorem breakOn?_dash_crlf (t : Text) : breakOn? ['-'] (crlf.encode t) =
    (breakOn? ['-'] t).map (Prod.map crlf.encode crlf.encode) := by
  induction t with
  | nil => rfl
  | cons c t ih =>
      by_cases hfeed : c = '\n'
      · subst hfeed
        rw [encode_cons_lineFeed]
        simp [terminator, breakOn?, afterLead?, ih, encode_cons_lineFeed, Function.comp_def]
      · rw [encode_cons_of_ne crlf hfeed]
        by_cases hdash : c = '-'
        · simp [breakOn?, afterLead?, hdash, encode, replaceChar]
        · simp [breakOn?, afterLead?, hdash, ih, encode_cons_of_ne crlf hfeed, Function.comp_def]

theorem count?_of_mem {t : Text} (h : '\n' ∈ t) : count? t = none := by
  cases hcount : count? t with
  | none => rfl
  | some n =>
      rcases (count?_eq_some_iff.1 hcount).mem h with heq | hdigit
      · cases heq
      · cases hdigit

theorem count?_crlf (t : Text) : count? (crlf.encode t) = count? t := by
  by_cases hfeed : '\n' ∈ t
  · have hmem : '\n' ∈ crlf.encode t := by
      obtain ⟨before, after, rfl⟩ := List.append_of_mem hfeed
      rw [encode_append, encode_cons_lineFeed]
      simp [terminator]
    rw [count?_of_mem hfeed, count?_of_mem hmem]
  · rw [encode_of_not_mem crlf hfeed]

end Text

/-- A text names the same lines in both styles. -/
theorem Literal.parseLineRange?_crlf (t : Text) :
    parseLineRange? (crlf.encode t) = parseLineRange? t := by
  unfold parseLineRange?
  simp only [trim_crlf, breakOn?_dash_crlf]
  cases breakOn? ['-'] (trim t) with
  | none => simp only [Option.map_none, count?_crlf]
  | some parts => simp only [Option.map_some, Prod.map, trim_crlf, count?_crlf]

/-! ## Patterns -/

section Patterns

variable {pattern : Text} (hpattern : '\r' ∉ pattern)

theorem lineCount_crlf (t : Text) : lineCount (crlf.encode t) = lineCount t := by
  have hlength : ∀ rows : List Text, (withReturns rows).length = rows.length := by
    intro rows
    induction rows with
    | nil => rfl
    | cons row rows ih =>
        by_cases hrows : rows = []
        · rw [hrows]
          rfl
        · rw [withReturns_cons _ hrows, List.length_cons, ih, List.length_cons]
  rw [lineCount_eq, lineCount_eq, lines_crlf, hlength]

include hpattern

theorem canonical_crlf (folding : Folding) :
    canonical folding (crlf.encode pattern) = canonical folding pattern := by
  unfold canonical
  simp only [normalize_crlf hpattern, normalize_of_not_mem hpattern]

/-- The same is found by a pattern in both styles. -/
theorem findMatch_pattern (content : Text) {o : MatchOptions} (hmode : o.mode.takesLines)
    (hanchor : o.anchor = none) :
    findMatch content (crlf.encode pattern) o = findMatch content pattern o := by
  have hcandidates : Lines.candidates content (crlf.encode pattern) =
      Lines.candidates content pattern := by
    rw [Lines.candidates, Lines.candidates, lineCount_crlf]
  have hfind : Lines.find content (crlf.encode pattern) o = Lines.find content pattern o := by
    simp only [Lines.find, hcandidates, canonical_crlf hpattern]
  simp only [findMatch, hanchor, findIn]
  cases hm : o.mode with
  | normalized => exact hfind
  | fuzzy =>
      simp only [Lines.findSimilar, hfind, hcandidates, canonical_crlf hpattern]
  | lineRange => simp only [Literal.findLines, Literal.parseLineRange?_crlf]
  | tokenized | semantic | contains | regex => simp [hm, MatchMode.takesLines] at hmode

end Patterns

/-! ## Contents -/

section Contents

variable {content : Text}

/-- Texts at the start of one content have the same size only if they are the same. -/
theorem eq_of_size_eq {a b x y : Text} (h : a ++ x = b ++ y) (hsize : size a = size b) : a = b := by
  obtain ⟨part, rfl, -⟩ := append_eq_of_size_le h (Nat.le_of_eq hsize)
  rw [size_append] at hsize
  rw [eq_nil_of_size (show size part = 0 by omega), List.append_nil]

/-- Two texts at the start of a content have the same size in both styles, or in none. -/
theorem size_crlf_iff (hreturn : '\r' ∉ content) {a b x y : Text} (ha : a ++ x = content)
    (hb : b ++ y = content) :
    size (crlf.encode a) = size (crlf.encode b) ↔ size a = size b := by
  have hra : '\r' ∉ a := fun h => hreturn (ha ▸ List.mem_append_left x h)
  have hrb : '\r' ∉ b := fun h => hreturn (hb ▸ List.mem_append_left y h)
  constructor
  · intro hsize
    have hcontent : crlf.encode a ++ crlf.encode x = crlf.encode b ++ crlf.encode y := by
      rw [← encode_append, ← encode_append, ha, hb]
    have hsame := congrArg normalize (eq_of_size_eq hcontent hsize)
    rw [normalize_crlf hra, normalize_crlf hrb] at hsame
    rw [hsame]
  · intro hsize
    rw [eq_of_size_eq (ha.trans hb.symm) hsize]

namespace Passage

variable (hreturn : '\r' ∉ content)

include hreturn

/-- A passage is at the place from one passage to another in both styles, or in none. -/
theorem span_crlf_iff (p a b : Passage content) :
    p.crlf.span = ⟨a.crlf.span.start, b.crlf.span.stop⟩ ↔
      p.span = ⟨a.span.start, b.span.stop⟩ := by
  have hstart : size p.crlf.before = size a.crlf.before ↔ size p.before = size a.before :=
    size_crlf_iff hreturn ((List.append_assoc ..).symm.trans p.eq)
      ((List.append_assoc ..).symm.trans a.eq)
  have hstop : size (p.crlf.before ++ p.crlf.text) = size (b.crlf.before ++ b.crlf.text) ↔
      size (p.before ++ p.text) = size (b.before ++ b.text) := by
    have hiff := size_crlf_iff hreturn p.eq b.eq
    rwa [encode_append, encode_append] at hiff
  simp only [span, Span.mk.injEq, ← size_append, hstart, hstop]

/-- The form of a passage covers the lines that the passage covers. -/
theorem covers_crlf_iff (p : Passage content) (i j : Nat) :
    p.crlf.toMatch.Covers (LineEnding.crlf.encode content) i j ↔ p.toMatch.Covers content i j := by
  obtain ⟨passages, hspans, hcrlf⟩ := lineSpans_passages hreturn
  constructor
  · rintro ⟨hle, first, last, hfirst, hlast, hspan⟩
    rw [hcrlf, List.getElem?_map] at hfirst hlast
    obtain ⟨a, ha, rfl⟩ := Option.map_eq_some_iff.1 hfirst
    obtain ⟨b, hb, rfl⟩ := Option.map_eq_some_iff.1 hlast
    refine ⟨hle, a.span, b.span, ?_, ?_, (span_crlf_iff hreturn p a b).1 hspan⟩
    · rw [hspans, List.getElem?_map, ha, Option.map_some]
    · rw [hspans, List.getElem?_map, hb, Option.map_some]
  · rintro ⟨hle, first, last, hfirst, hlast, hspan⟩
    rw [hspans, List.getElem?_map] at hfirst hlast
    obtain ⟨a, ha, rfl⟩ := Option.map_eq_some_iff.1 hfirst
    obtain ⟨b, hb, rfl⟩ := Option.map_eq_some_iff.1 hlast
    refine ⟨hle, a.crlf.span, b.crlf.span, ?_, ?_, (span_crlf_iff hreturn p a b).2 hspan⟩
    · rw [hcrlf, List.getElem?_map, ha, Option.map_some]
    · rw [hcrlf, List.getElem?_map, hb, Option.map_some]

end Passage

end Contents

/-- Where whole lines are sought, something is found in a content without carriage returns exactly
if something is found in its form with two characters at each end of a line: it covers the same
lines there, and its text is the form of what is found in the content.  The pattern finds the same
in both styles. -/
theorem findMatch_crlf {content pattern : Text} {o : MatchOptions} (hreturn : '\r' ∉ content)
    (hpattern : '\r' ∉ pattern) (hmode : o.mode.takesLines) (hanchor : o.anchor = none) :
    (findMatch content pattern o = none ↔ findMatch (crlf.encode content) pattern o = none) ∧
      (∀ m, findMatch content pattern o = some m →
        ∃ m', findMatch (crlf.encode content) pattern o = some m' ∧
          (∃ i j, m.Covers content i j ∧ m'.Covers (crlf.encode content) i j) ∧
          (∀ i j, m.Covers content i j ↔ m'.Covers (crlf.encode content) i j) ∧
          m'.text = crlf.encode m.text) ∧
      findMatch content (crlf.encode pattern) o = findMatch content pattern o ∧
      findMatch (crlf.encode content) (crlf.encode pattern) o =
        findMatch (crlf.encode content) pattern o := by
  obtain ⟨found, hfound, hfoundCrlf⟩ := findMatch_passage hreturn pattern o hmode hanchor
  refine ⟨?_, fun m hm => ?_, findMatch_pattern hpattern content hmode hanchor,
    findMatch_pattern hpattern _ hmode hanchor⟩
  · rw [hfound, hfoundCrlf, Option.map_eq_none_iff, Option.map_eq_none_iff]
  · obtain ⟨i, j, hcovers⟩ := findMatch_covers hmode hanchor hm
    rw [hfound] at hm
    obtain ⟨p, rfl, rfl⟩ := Option.map_eq_some_iff.1 hm
    have hlines := p.covers_crlf_iff hreturn
    exact ⟨p.crlf.toMatch, hfoundCrlf, ⟨i, j, hcovers, (hlines i j).2 hcovers⟩,
      fun i j => (hlines i j).symm, rfl⟩

/-- Two lines that have an end, of which the second is indented. -/
def insetLine : Text := ['a', '\n', ' ', 'b', '\n']

theorem findMatch_crlf_insetLine : ∃ m,
    findMatch ['a', '\r', '\n', ' ', 'b', '\r', '\n'] ['a', '\r', '\n', 'b'] {} = some m ∧
      m.text = ['a', '\r', '\n', ' ', 'b'] := by
  have hreturn : '\r' ∉ insetLine := by decide
  have hpattern : '\r' ∉ (['a', '\n', 'b'] : Text) := by decide
  have hfound : findMatch insetLine ['a', '\n', 'b'] {} =
      some ⟨⟨0, 4⟩, ['a', '\n', ' ', 'b']⟩ := by rfl
  obtain ⟨-, hform, -, hsame⟩ := findMatch_crlf hreturn hpattern (o := {}) (by rfl) (by rfl)
  obtain ⟨m, hm, -, -, htext⟩ := hform _ hfound
  exact ⟨m, hsame.trans hm, htext⟩

end Emend
