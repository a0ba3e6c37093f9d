import Emend.Match.Basic
import Emend.Pattern.Compile
import Emend.Text.Number
/-!
# Matching by a pattern, a text or line numbers

* A written pattern is found where the pattern matches; a text that is no
  pattern is found nowhere.
* A text is found at its first occurrence.  Where case does not count it is
  compared character by character, so a match has as many characters as the
  text that is sought.
* Lines are given by one number or by the first and the last, counted from one.
-/

namespace Emend.Literal

/-- The first match of a written pattern. -/
def findPattern (content pattern : Text) (caseSensitive : Bool) : Option Match :=
  match Pattern.ofText caseSensitive pattern with
  | .error _ => none
  | .ok node => (Pattern.find node content).map fun f => Match.ofSpan content f.span

/-! ## Occurrences -/

/-- The part at the start of a text that agrees with `needle`, character by
character. -/
def agreeing? (same : Char → Char → Bool) : (needle t : Text) → Option Text
  | [], _ => some []
  | _ :: _, [] => none
  | n :: ns, c :: t => if same c n then (agreeing? same ns t).map (c :: ·) else none

/-- The place of the first part of a text that agrees with `needle`.  The text
is at `offset`. -/
def firstAgreeing? (same : Char → Char → Bool) (needle : Text) (offset : Nat) :
    Text → Option Span
  | [] => none
  | c :: t =>
    match agreeing? same needle (c :: t) with
    | some part => some ⟨offset, offset + Text.size part⟩
    | none => firstAgreeing? same needle (offset + c.utf8Size) t

/-- The first occurrence of a text that is not empty. -/
def findText (content pattern : Text) (caseSensitive : Bool) : Option Match :=
  if pattern.isEmpty then none
  else
    let same := if caseSensitive then fun a b => a == b else sameLower
    (firstAgreeing? same pattern 0 content).map (Match.ofSpan content)

/-! ## Line numbers -/

/-- The first and the last line that a text names. -/
def parseLineRange? (t : Text) : Option (Nat × Nat) := do
  let t := Text.trim t
  match Text.breakOn? ['-'] t with
  | some (first, last) =>
    let first ← Text.count? (Text.trim first)
    let last ← Text.count? (Text.trim last)
    return (first, last)
  | none =>
    let n ← Text.count? t
    return (n, n)

/-- The lines that a text names, if the content has them all. -/
def findLines (content pattern : Text) : Option Match := do
  let (first, last) ← parseLineRange? pattern
  if 1 ≤ first ∧ first ≤ last then
    let spans := Text.lineSpans content
    let a ← spans[first - 1]?
    let b ← spans[last - 1]?
    return Match.ofSpan content ⟨a.start, b.stop⟩
  else none

example : parseLineRange? " 2 - +3 ".toList = some (2, 3) := by decide
example : parseLineRange? "2-3-4".toList = none := by decide

end Emend.Literal
