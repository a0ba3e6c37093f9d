import Emend.Text.Blank
import Emend.Text.Ending
import Emend.Text.Line
/-!
# Indentation

The indentation of a line is its leading blanks.  A text is re-indented line by
line: what leads a line is replaced, whatever it was, and a line of blanks is
left as it is.
-/

namespace Emend.Text

/-- The leading blanks of a line. -/
def indentOf (line : Text) : Text := line.takeWhile isBlank

/-- A line with another indentation; a line of blanks is kept. -/
def reindentLine (indent line : Text) : Text :=
  if allBlank line then line else indent ++ trimStart line

/-- A text with each line indented by `indent` and its lines ended in the
given style. -/
def reindent (indent : Text) (ending : LineEnding) (t : Text) : Text :=
  join ending.terminator ((lines (LineEnding.normalize t)).map (reindentLine indent))

theorem indentOf_append_trimStart (line : Text) : indentOf line ++ trimStart line = line :=
  List.takeWhile_append_dropWhile

example : reindent ['\t'] .lf "  a\n\nb".toList = "\ta\n\n\tb".toList := by decide

end Emend.Text
