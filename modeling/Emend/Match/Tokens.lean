import Emend.Distance.Similarity
import Emend.Match.Basic
/-!
# Matching runs of words

The tokens of a text are its words, with their places in it.  If comments do
not count they are blanked first, which moves nothing, so the places of the
tokens of the masked text are their places in the text.

With a threshold of one or more, the first run of tokens that equals the
pattern's tokens is taken.  Below it runs of a fifth fewer up to a fifth more
tokens are compared by their edit distance, and the most similar one is taken.
-/

namespace Emend

/-- A word and its place. -/
structure Token where
  /-- The word, in the form in which words are compared. -/
  text : Text
  /-- Its place in the text. -/
  span : Span
  deriving DecidableEq, Repr

namespace Tokens

/-- The words of a text that starts at an offset, with their places. -/
def wordsFrom (offset : Nat) : Text → List Token
  | [] => []
  | c :: t =>
    let next := offset + c.utf8Size
    if isBlank c then wordsFrom next t
    else
      let alone : Token := ⟨[c], ⟨offset, next⟩⟩
      match t, wordsFrom next t with
      | d :: _, token :: tokens =>
        if isBlank d then alone :: token :: tokens
        else ⟨c :: token.text, ⟨offset, token.span.stop⟩⟩ :: tokens
      | _, tokens => alone :: tokens

/-- The tokens of a text. -/
def ofText (folding : Folding) (t : Text) : List Token :=
  let words := wordsFrom 0 (if folding.ignoreComments then Text.maskComments t else t)
  if folding.caseSensitive then words
  else words.map fun w => { w with text := Text.lowercase w.text }

/-- A run of tokens: the first `count` of those from a certain one on. -/
structure Window where
  /-- The tokens from the first one of the run on. -/
  rest : List Token
  /-- The number of tokens in the run. -/
  count : Nat

namespace Window

/-- The tokens of a run. -/
def tokens (w : Window) : List Token := w.rest.take w.count

/-- The words of a run. -/
def texts (w : Window) : List Text := w.tokens.map Token.text

/-- The place of a run: from the start of its first token to the end of its
last. -/
def span (w : Window) : Span :=
  match w.tokens with
  | [] => ⟨0, 0⟩
  | first :: rest => ⟨first.span.start, (rest.getLastD first).span.stop⟩

end Window

/-- The runs of at least `low` and at most `high` tokens, by their first token
and then by their number. -/
def windows (low high : Nat) : List Token → List Window
  | [] => []
  | t :: ts =>
    let all := t :: ts
    let counts := List.range' low (min high all.length + 1 - low)
    counts.map (Window.mk all) ++ windows low high ts

/-- The fewest tokens of a run for a base of `n`. -/
def fewest (n : Nat) : Nat := max (n.toUInt64.toFloat * 0.8).toUInt64.toNat 1

/-- The most tokens of a run for a base of `n`. -/
def most (n : Nat) : Nat := (n.toUInt64.toFloat * 1.2).toUInt64.toNat

/-- The first or the most similar run of tokens. -/
def find (content pattern : Text) (options : MatchOptions) : Option Match :=
  let sought := (ofText options.folding pattern).map Token.text
  if sought.isEmpty then none
  else
    let base := if 0 < options.windowSize then options.windowSize else sought.length
    let tokens := ofText options.folding content
    let threshold := options.threshold
    let found : Option Window :=
      if threshold ≥ 1.0 then (windows base base tokens).find? fun w => w.texts == sought
      else
        (bestScored (fun s => Distance.meets s threshold)
          (fun w : Window => Distance.similarity sought w.texts threshold) none
          (windows (fewest base) (most base) tokens)).map Prod.snd
    found.map fun w => Match.ofSpan content w.span

end Tokens

end Emend
