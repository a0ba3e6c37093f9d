import Emend.Diff.Compact
import Emend.Diff.Shortest
import Emend.Text.Basic
/-!
# Line diffs

Two contents are compared line by line.  A line reaches to the end of its line
break, which may be a line feed, a carriage return, or both.  Between two runs
of kept lines the removed lines come before the added ones.
-/

namespace Emend.Diff

/-- Lines with one more character before the first of them. -/
def addFirst (c : Char) (lines : List Text) : List Text :=
  match c, lines with
  | '\n', _ => ['\n'] :: lines
  | '\r', ['\n'] :: rest => ['\r', '\n'] :: rest
  | '\r', _ => ['\r'] :: lines
  | c, [] => [[c]]
  | c, line :: rest => (c :: line) :: rest

/-- The lines of a content with their line breaks. -/
def linesOf (t : Text) : List Text := t.foldr addFirst []

example : linesOf "a\r\nb\r\n\nc".toList =
    ["a\r\n", "b\r\n", "\n", "c"].map String.toList := by decide

example : linesOf "\r\ra\n".toList = ["\r", "\r", "a\n"].map String.toList := by decide

/-- A line of a diff. -/
structure LineChange where
  /-- What has become of it. -/
  tag : Tag
  /-- The line with its line break. -/
  text : Text
  deriving DecidableEq, Repr

/-- Whether a line has no line break. -/
def LineChange.isOpen (c : LineChange) : Bool :=
  !(c.text.getLast?.any fun c => c == '\r' || c == '\n')

/-- The lines of a script in the order in which they are shown; `removed` and
`added` are the lines since the last kept one. -/
def shownFrom (removed added : List LineChange) : List (Step Text) → List LineChange
  | [] => removed ++ added
  | ⟨tag, lines⟩ :: rest =>
    let changes := lines.map (LineChange.mk tag)
    match tag with
    | .kept => removed ++ added ++ changes ++ shownFrom [] [] rest
    | .removed => shownFrom (removed ++ changes) added rest
    | .added => shownFrom removed (added ++ changes) rest

/-- The line diff of two contents. -/
def lineChanges (old new : Text) : List LineChange :=
  shownFrom [] [] (compact (script (linesOf old) (linesOf new)))

end Emend.Diff
