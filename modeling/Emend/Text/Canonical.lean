import Emend.Text.Blank
import Emend.Text.Comment
import Emend.Text.Ending
import Emend.Text.Line
import Emend.Unicode.Case
/-!
# The canonical form of a text

Texts are compared in a form in which formatting does not show.

* Line breaks are bare line feeds, and comments are blanked if asked for.
* Each operator character stands between blanks, each run of blanks in a line
  is one space, and a line has no blanks at its ends.
* Empty lines are dropped if asked for, and letters are lower-cased if case
  does not count.

What is left of a line is the sequence of its operators and of its runs of
other characters, with one space between two of them.
-/

namespace Emend

/-- What does not count when texts are compared. -/
structure Folding where
  /-- Comments do not count. -/
  ignoreComments : Bool := false
  /-- Empty lines do not count. -/
  ignoreEmptyLines : Bool := true
  /-- Capital and small letters are different. -/
  caseSensitive : Bool := true
  deriving DecidableEq, Repr

namespace Text

/-- The characters that stand alone in the canonical form. -/
def isOperator (c : Char) : Bool :=
  c == '=' || c == '+' || c == '-' || c == '*' || c == '/' || c == ':' || c == '<' ||
    c == '>' || c == '!'

/-- The line with a space before and after each operator. -/
def padOperators (line : Text) : Text :=
  line.flatMap fun c => if isOperator c then [' ', c, ' '] else [c]

/-- The canonical form of a line. -/
def canonicalLine (line : Text) : Text := trim (foldBlanks (padOperators line))

/-- The canonical form of a text. -/
def canonical (folding : Folding) (t : Text) : Text :=
  let t := LineEnding.normalize t
  let t := if folding.ignoreComments then maskComments t else t
  let forms := (lines t).map canonicalLine
  let forms := if folding.ignoreEmptyLines then forms.filter fun l => !l.isEmpty else forms
  let t := join ['\n'] forms
  if folding.caseSensitive then t else lowercase t

example : canonicalLine "  val x=10 ".toList = "val x = 10".toList := by decide

end Text

end Emend
