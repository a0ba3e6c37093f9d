import Emend.Match.Options
import Emend.Text.Line
/-!
# Matches

A match is a place in a content and the text at this place, exactly as the
content has it.
-/

namespace Emend

/-- A place where a text was found. -/
structure Match where
  /-- The place. -/
  span : Span
  /-- The text at this place. -/
  text : Text
  deriving DecidableEq, Repr

namespace Match

/-- The match at a place of a content. -/
def ofSpan (content : Text) (span : Span) : Match := ⟨span, span.text content⟩

/-- The match in a content of which the given one is a match in the part that
starts at `start`. -/
def shift (m : Match) (start : Nat) : Match := { m with span := m.span.shift start }

end Match

/-- The candidate of greatest score among those that `accept` lets pass, and
of several the first; `top` is the best so far. -/
def bestScored {α : Type} (accept : Float → Bool) (score : α → Float)
    (top : Option (Float × α)) : List α → Option (Float × α)
  | [] => top
  | a :: rest =>
    let s := score a
    let better := match top with
      | none => true
      | some (best, _) => s > best
    bestScored accept score (if accept s && better then some (s, a) else top) rest

end Emend
