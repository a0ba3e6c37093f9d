import Emend.Match.Declaration
import Emend.Match.Lines
import Emend.Match.Literal
import Emend.Match.Tokens
/-!
# Finding a match

A match is sought by the strategy of its options, in the whole content or in
the region of an anchor.

The anchor is a text that is found first, by a strategy of its own.  With the
scope of a file its region is the whole content.  With any other scope the
region starts at the anchor and ends with the block of the level that the
anchor names, counted from the first brace after it; if there is no such
level, with the first block.
-/

namespace Emend

namespace Anchor

/-- The strategy by which an anchor is found: those that make no sense for an
anchor are replaced by the comparison of lines. -/
def locatingMode (mode : MatchMode) : MatchMode :=
  match mode with
  | .tokenized | .lineRange => .normalized
  | mode => mode

/-- The place of the anchor. -/
def locate (content : Text) (anchor : Anchor) (options : MatchOptions) : Option Match :=
  match locatingMode anchor.mode with
  | .fuzzy => Lines.findSimilar content anchor.text options
  | .semantic => Declaration.find content anchor.text options
  | .contains => Literal.findText content anchor.text options.folding.caseSensitive
  | .regex => Literal.findPattern content anchor.text options.folding.caseSensitive
  | _ => Lines.find content anchor.text options

/-- The level of braces at which the region ends. -/
def targetDepth (anchor : Anchor) : Nat := (max anchor.depth 1).toNat

/-- The region of the anchor. -/
def region? (content : Text) (anchor : Anchor) (options : MatchOptions) : Option Span := do
  let found ← locate content anchor options
  if anchor.scope = .file then return ⟨0, Text.size content⟩
  else
    let start ← Braces.opening? found.span.start content
    let stop ← Braces.scopeEnd? start anchor.targetDepth content
    return ⟨found.span.start, stop⟩

end Anchor

/-- The match of a pattern in a text, by the strategy of the options. -/
def findIn (t pattern : Text) (options : MatchOptions) : Option Match :=
  match options.mode with
  | .normalized => Lines.find t pattern options
  | .fuzzy => Lines.findSimilar t pattern options
  | .tokenized => Tokens.find t pattern options
  | .semantic => Declaration.find t pattern options
  | .regex => Literal.findPattern t pattern options.folding.caseSensitive
  | .contains => Literal.findText t pattern options.folding.caseSensitive
  | .lineRange => Literal.findLines t pattern

/-- The match of a pattern in a content, in the region of the anchor if there
is one. -/
def findMatch (content pattern : Text) (options : MatchOptions) : Option Match :=
  match options.anchor with
  | none => findIn content pattern options
  | some anchor => do
    let region ← anchor.region? content options
    let found ← findIn (region.text content) pattern options
    return found.shift region.start

end Emend
