import Emend.Proofs.Match.Declarations
import Emend.Proofs.Match.Tokens
/-!
# Every match is exact

Whatever the strategy and wherever the anchor, the search for a match cuts its texts at
places only, and what it finds is what the content has at the span of the match
(`findMatch_exact`).  A match that is sought in the region of an anchor lies in this
region.
-/

namespace Emend

namespace Match

theorem Exact.fits {content : Text} {m : Match} (h : m.Exact content) : m.span.Fits content :=
  Span.fits_of_slice? h

/-- An exact match in a part is one in the text. -/
theorem Exact.shift (before : Text) {part : Text} {m : Match} (h : m.Exact part)
    (after : Text) : (m.shift (Text.size before)).Exact (before ++ part ++ after) := by
  obtain ⟨hfit, htext⟩ := h.fits.shift before after
  have hpart : m.span.text part = m.text := Text.slice_eq h
  rw [Exact, show (m.shift (Text.size before)).text = m.text from rfl, ← hpart, ← htext]
  exact hfit.slice?

end Match

namespace Checked

variable (content pattern : Text) (options : MatchOptions) (anchor : Anchor)

/-! ## Anchors -/

theorem locate_agrees : Agrees content (locate content anchor options)
    (anchor.locate content options) := by
  unfold locate Anchor.locate
  cases Anchor.locatingMode anchor.mode with
  | fuzzy => exact findSimilar_agrees content anchor.text options
  | semantic => exact findDeclaration_agrees content anchor.text options
  | contains => exact findText_agrees content anchor.text options.folding.caseSensitive
  | regex => exact findPattern_agrees content anchor.text options.folding.caseSensitive
  | normalized | tokenized | lineRange => exact findLines_agrees content anchor.text options

/-- The region of an anchor is a part of the content. -/
theorem region_ok : region content anchor options = .ok (anchor.region? content options) ∧
    ∀ s, anchor.region? content options = some s → s.Fits content := by
  obtain ⟨heq, hexact⟩ := locate_agrees content options anchor
  simp only [region, Anchor.region?, heq, bind, Except.bind]
  cases hfound : anchor.locate content options with
  | none => exact ⟨rfl, by simp⟩
  | some found =>
  simp only [Option.bind_some]
  split
  · refine ⟨rfl, fun s hs => ?_⟩
    cases hs
    exact Span.fits_whole content
  · obtain ⟨before, rest, rfl, hbefore⟩ :=
      Text.isBoundary_iff.1 (hexact found hfound).fits.start
    simp only [← hbefore, cut_ok, Braces.opening?, Braces.scopeEnd?, Text.splitAt?_size, bind,
      Option.bind_some]
    cases hbrace : Text.breakOn? ['{'] rest with
    | none => exact ⟨rfl, by simp⟩
    | some parts =>
    obtain ⟨front, back⟩ := parts
    have hrest := Text.breakOn?_eq_some hbrace
    rw [List.append_assoc] at hrest
    subst hrest
    have hsize := Text.size_append before front
    simp only [Option.bind_some, pure, ← hsize]
    rw [← List.append_assoc]
    simp only [cut_ok, Text.splitAt?_size, Option.bind_some]
    cases hend : Braces.scopeEndFrom? anchor.targetDepth false 0 (Text.size (before ++ front))
        (['{'] ++ back) with
    | none => exact ⟨rfl, by simp⟩
    | some stop =>
        refine ⟨rfl, fun s hs => ?_⟩
        cases hs
        obtain ⟨hle, hplace⟩ := Braces.scopeEndFrom?_isBoundary hend
        refine ⟨?_, ?_, hplace⟩
        · simp only
          omega
        · rw [List.append_assoc]
          exact Text.isBoundary_size before _

/-! ## The search -/

theorem findIn_agrees :
    Agrees content (findIn content pattern options) (Emend.findIn content pattern options) := by
  unfold findIn Emend.findIn
  cases options.mode with
  | normalized => exact findLines_agrees content pattern options
  | fuzzy => exact findSimilar_agrees content pattern options
  | tokenized => exact findTokens_agrees content pattern options
  | semantic => exact findDeclaration_agrees content pattern options
  | regex => exact findPattern_agrees content pattern options.folding.caseSensitive
  | contains => exact findText_agrees content pattern options.folding.caseSensitive
  | lineRange => exact findNumbered_agrees content pattern

/-- With an anchor, a search finds what the search of the region finds, put where the region
starts. -/
theorem findMatch_of_region {region : Span} (hanchor : options.anchor = some anchor)
    (hregion : anchor.region? content options = some region) :
    findMatch content pattern options = .ok (Emend.findMatch content pattern options) ∧
      Emend.findMatch content pattern options =
        (Emend.findIn (region.text content) pattern options).map (·.shift region.start) := by
  obtain ⟨heq, hfits⟩ := region_ok content options anchor
  have hpart := findIn_agrees (region.text content) pattern options
  simp only [findMatch, Emend.findMatch, hanchor, heq, hregion, slice_ok (hfits region hregion),
    hpart.eq, bind, Except.bind, Option.bind_some]
  cases Emend.findIn (region.text content) pattern options with
  | none => exact ⟨rfl, rfl⟩
  | some found => exact ⟨rfl, rfl⟩

/-- A match in a region that fits is exact and lies in the region. -/
theorem exact_of_region {region : Span} (hfit : region.Fits content) {m : Match}
    (h : (Emend.findIn (region.text content) pattern options).map (·.shift region.start) = some m) :
    m.Exact content ∧ region.start ≤ m.span.start ∧ m.span.stop ≤ region.stop := by
  obtain ⟨found, hfound, rfl⟩ := Option.map_eq_some_iff.1 h
  have hexact := (findIn_agrees (region.text content) pattern options).exact found hfound
  obtain ⟨before, part, after, rfl, rfl⟩ := Span.fits_iff.1 hfit
  rw [Span.text_append] at hexact
  have hstop : found.span.stop ≤ Text.size part := hexact.fits.stop_le
  refine ⟨hexact.shift before after, Nat.le_add_left _ _, ?_⟩
  show found.span.stop + Text.size before ≤ Text.size before + Text.size part
  omega

theorem findMatch_agrees : Agrees content (findMatch content pattern options)
    (Emend.findMatch content pattern options) := by
  cases hanchor : options.anchor with
  | none =>
      unfold findMatch Emend.findMatch
      rw [hanchor]
      exact findIn_agrees content pattern options
  | some anchor =>
      obtain ⟨heq, hfits⟩ := region_ok content options anchor
      cases hregion : anchor.region? content options with
      | none =>
          simp only [findMatch, Emend.findMatch, hanchor, heq, hregion, bind, Except.bind,
            Option.bind_none]
          exact agrees_none content
      | some region =>
          obtain ⟨hok, hsame⟩ := findMatch_of_region content pattern options anchor hanchor hregion
          refine ⟨hok, fun m hm => ?_⟩
          rw [hsame] at hm
          exact (exact_of_region content pattern options (hfits region hregion) hm).1

end Checked

/-- A match lies in the region of the anchor, if there is an anchor. -/
theorem region_of_findMatch {content pattern : Text} {options : MatchOptions} {m : Match}
    (h : findMatch content pattern options = some m) {anchor : Anchor}
    (hanchor : options.anchor = some anchor) :
    ∃ region, anchor.region? content options = some region ∧
      region.start ≤ m.span.start ∧ m.span.stop ≤ region.stop := by
  cases hregion : anchor.region? content options with
  | none => simp [findMatch, hanchor, hregion] at h
  | some region =>
      rw [(Checked.findMatch_of_region content pattern options anchor hanchor hregion).2] at h
      have hfit := (Checked.region_ok content options anchor).2 region hregion
      exact ⟨region, rfl, (Checked.exact_of_region content pattern options hfit h).2⟩

/-- No search cuts the content where there is no place, and a match is what the content has at
the span of the match, in the region of the anchor if there is one. -/
theorem findMatch_exact (content pattern : Text) (options : MatchOptions) :
    Checked.findMatch content pattern options = .ok (findMatch content pattern options) ∧
      ∀ m, findMatch content pattern options = some m →
        m.span.start ≤ m.span.stop ∧ m.span.stop ≤ Text.size content ∧
        Text.isBoundary m.span.start content = true ∧
        Text.isBoundary m.span.stop content = true ∧
        Text.slice? m.span.start m.span.stop content = some m.text ∧
        ∀ anchor, options.anchor = some anchor →
          ∃ region, anchor.region? content options = some region ∧
            region.start ≤ m.span.start ∧ m.span.stop ≤ region.stop := by
  obtain ⟨heq, hexact⟩ := Checked.findMatch_agrees content pattern options
  refine ⟨heq, fun m hm => ?_⟩
  have hm' : m.Exact content := hexact m hm
  have hfit := hm'.fits
  exact ⟨hfit.ordered, hfit.stop_le, hfit.start, hfit.stop, hm', fun _ hanchor =>
    region_of_findMatch hm hanchor⟩

end Emend
