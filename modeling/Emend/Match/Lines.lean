import Emend.Distance.Similarity
import Emend.Match.Basic
/-!
# Matching lines

Two strategies look at every run of as many lines as the pattern has, and
compare its canonical form with that of the pattern.

* `Lines.find` takes the first run with the same form.
* `Lines.findSimilar` takes the run whose form is most similar, if it is
  similar enough.  A threshold of one or more asks for the same form.

A pattern whose canonical form is empty is not found anywhere.
-/

namespace Emend.Lines

/-- The runs of lines that a pattern is compared with. -/
def candidates (content pattern : Text) : List Span :=
  Text.windows (Text.lineCount pattern) (Text.lineSpans content)

/-- The first run of lines with the same canonical form as the pattern. -/
def find (content pattern : Text) (options : MatchOptions) : Option Match :=
  let form := Text.canonical options.folding
  let target := form pattern
  if target.isEmpty then none
  else ((candidates content pattern).find? fun s => form (s.text content) == target).map
    (Match.ofSpan content)

/-- The run of lines with the most similar canonical form. -/
def findSimilar (content pattern : Text) (options : MatchOptions) : Option Match :=
  let threshold := options.threshold
  if threshold ≥ 1.0 then find content pattern options
  else
    let form := Text.canonical options.folding
    let target := form pattern
    if target.isEmpty then none
    else
      let score := fun (s : Span) => Distance.similarity target (form (s.text content)) threshold
      (bestScored (fun s => Distance.meets s threshold) score none
        (candidates content pattern)).map fun (_, s) => Match.ofSpan content s

end Emend.Lines
