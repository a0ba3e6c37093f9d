import Emend.Match.Find
/-!
# Options that can be used

A search passes over what it cannot use: a text that is no pattern is found nowhere, and
so is a range of lines that is none.  `MatchOptions.Usable` says that there is nothing of
this kind in some options and in the text that is looked for.

*Patterns.*  The searches by patterns are written once more, so that a text that is no
pattern is not passed over but ends the search.  With usable options this never happens,
whatever the content (`Strict.findMatch_eq`).

*Lines.*  A range of lines is then missed for one reason only: the part of the content in
which it is sought is not there or has fewer lines (`findMatch_eq_none_iff_of_lineRange`).
-/

namespace Emend

/-- A text is a pattern. -/
def IsPattern (caseSensitive : Bool) (t : Text) : Prop :=
  ∃ node, Pattern.ofText caseSensitive t = .ok node

/-- Nothing in some options keeps a search for `target` from being made. -/
structure MatchOptions.Usable (o : MatchOptions) (target : Text) : Prop where
  /-- The threshold is a score. -/
  threshold : 0.0 ≤ o.threshold ∧ o.threshold ≤ 1.0
  /-- The level of an anchor is one, or minus one. -/
  depth : ∀ a, o.anchor = some a → -1 ≤ a.depth
  /-- A range of lines is one. -/
  lines : o.mode = .lineRange → ∃ first last,
    Literal.parseLineRange? target = some (first, last) ∧ 1 ≤ first ∧ first ≤ last
  /-- A pattern is one. -/
  pattern : o.mode = .regex → IsPattern o.folding.caseSensitive target
  /-- A pattern for an anchor is one. -/
  anchorPattern : ∀ a, o.anchor = some a → a.mode = .regex →
    IsPattern o.folding.caseSensitive a.text

/-- The region of an anchor that has been found. -/
def Anchor.regionOf (content : Text) (anchor : Anchor) (found : Match) : Option Span :=
  if anchor.scope = .file then some ⟨0, Text.size content⟩
  else do
    let start ← Braces.opening? found.span.start content
    let stop ← Braces.scopeEnd? start anchor.targetDepth content
    return ⟨found.span.start, stop⟩

theorem Anchor.region?_eq (content : Text) (anchor : Anchor) (options : MatchOptions) :
    anchor.region? content options =
      (anchor.locate content options).bind (anchor.regionOf content) := rfl

/-! ## Searches that accept patterns only -/

namespace Strict

/-- The first match of a written pattern. -/
def findPattern (content pattern : Text) (caseSensitive : Bool) :
    Except Pattern.PatternError (Option Match) :=
  (Pattern.ofText caseSensitive pattern).map fun node =>
    (Pattern.find node content).map fun f => Match.ofSpan content f.span

/-- The place of an anchor. -/
def locate (content : Text) (anchor : Anchor) (options : MatchOptions) :
    Except Pattern.PatternError (Option Match) :=
  match Anchor.locatingMode anchor.mode with
  | .regex => findPattern content anchor.text options.folding.caseSensitive
  | _ => .ok (anchor.locate content options)

/-- The match of a pattern in a text, by the strategy of the options. -/
def findIn (t pattern : Text) (options : MatchOptions) : Except Pattern.PatternError (Option Match) :=
  match options.mode with
  | .regex => findPattern t pattern options.folding.caseSensitive
  | _ => .ok (Emend.findIn t pattern options)

/-- The match of a pattern in a content, in the region of the anchor if there is one. -/
def findMatch (content pattern : Text) (options : MatchOptions) :
    Except Pattern.PatternError (Option Match) :=
  match options.anchor with
  | none => findIn content pattern options
  | some anchor => do
    let found ← locate content anchor options
    match found.bind (anchor.regionOf content) with
    | none => return none
    | some region =>
      let found ← findIn (region.text content) pattern options
      return found.map (·.shift region.start)

variable {content pattern : Text} {options : MatchOptions} {anchor : Anchor}

theorem findPattern_eq {caseSensitive : Bool} (h : IsPattern caseSensitive pattern)
    (content : Text) : findPattern content pattern caseSensitive =
      .ok (Literal.findPattern content pattern caseSensitive) := by
  obtain ⟨node, hnode⟩ := h
  simp only [findPattern, Literal.findPattern, hnode, Except.map]

theorem locate_eq (h : anchor.mode = .regex → IsPattern options.folding.caseSensitive anchor.text)
    (content : Text) :
    locate content anchor options = .ok (anchor.locate content options) := by
  unfold locate Anchor.locate
  cases hmode : anchor.mode with
  | regex => exact findPattern_eq (h hmode) content
  | normalized | fuzzy | tokenized | semantic | contains | lineRange => rfl

theorem findIn_eq (h : options.mode = .regex → IsPattern options.folding.caseSensitive pattern)
    (t : Text) : findIn t pattern options = .ok (Emend.findIn t pattern options) := by
  unfold findIn Emend.findIn
  cases hmode : options.mode with
  | regex => exact findPattern_eq (h hmode) t
  | normalized | fuzzy | tokenized | semantic | contains | lineRange => rfl

/-- With usable options, no search comes to a text that is no pattern. -/
theorem findMatch_eq (h : options.Usable pattern) (content : Text) :
    findMatch content pattern options = .ok (Emend.findMatch content pattern options) := by
  unfold findMatch Emend.findMatch
  cases hanchor : options.anchor with
  | none => exact findIn_eq h.pattern content
  | some anchor =>
      simp only [locate_eq (h.anchorPattern anchor hanchor), Anchor.region?_eq, bind, Except.bind]
      cases (anchor.locate content options).bind (anchor.regionOf content) with
      | none => rfl
      | some region =>
          simp only [findIn_eq h.pattern, Option.bind_some]
          cases Emend.findIn (region.text content) pattern options <;> rfl

end Strict

/-! ## Ranges of lines -/

/-- The part of a content in which a match is sought. -/
def MatchOptions.part? (o : MatchOptions) (content : Text) : Option Text :=
  match o.anchor with
  | none => some content
  | some anchor => (anchor.region? content o).map (·.text content)

variable {content pattern : Text} {options : MatchOptions} {first last : Nat}

theorem Literal.findLines_eq_none_iff
    (hrange : Literal.parseLineRange? pattern = some (first, last)) (hfirst : 1 ≤ first)
    (hlast : first ≤ last) (content : Text) :
    Literal.findLines content pattern = none ↔ Text.lineCount content < last := by
  have hget : ∀ n, 1 ≤ n → ((Text.lineSpans content)[n - 1]? = none ↔
      Text.lineCount content < n) := by
    intro n hn
    rw [List.getElem?_eq_none_iff, Text.lineCount]
    omega
  unfold Literal.findLines
  simp only [hrange, hfirst, hlast, and_self, if_true, Option.bind_eq_bind, Option.bind_some]
  rw [← hget last (by omega)]
  cases hend : (Text.lineSpans content)[last - 1]? with
  | none => cases (Text.lineSpans content)[first - 1]? <;> simp
  | some b =>
      cases hstart : (Text.lineSpans content)[first - 1]? with
      | some a => simp
      | none =>
          -- An earlier line is there if a later one is.
          have hfew := (hget first hfirst).1 hstart
          rw [(hget last (by omega)).2 (by omega)] at hend
          cases hend

/-- A range of lines is missed if the part of the content in which it is sought is not there
or has fewer lines, and for no other reason. -/
theorem findMatch_eq_none_iff_of_lineRange (hmode : options.mode = .lineRange)
    (hrange : Literal.parseLineRange? pattern = some (first, last)) (hfirst : 1 ≤ first)
    (hlast : first ≤ last) (content : Text) :
    findMatch content pattern options = none ↔
      ∀ part, options.part? content = some part → Text.lineCount part < last := by
  have hmissed := Literal.findLines_eq_none_iff hrange hfirst hlast
  have hlines : ∀ t, findIn t pattern options = Literal.findLines t pattern := by
    intro t
    rw [findIn, hmode]
  unfold findMatch MatchOptions.part?
  cases options.anchor with
  | none => simp [hlines, hmissed]
  | some anchor =>
      cases hregion : anchor.region? content options with
      | none => simp [hregion]
      | some region =>
          have hregionMissed := hmissed (region.text content)
          cases hfound : Literal.findLines (region.text content) pattern with
          | none => simpa [hregion, hlines, hfound] using hregionMissed
          | some found => simpa [hregion, hlines, hfound] using hregionMissed

end Emend
