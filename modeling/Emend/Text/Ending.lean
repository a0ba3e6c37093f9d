import Emend.Text.Basic
/-!
# Line endings

A file ends its lines with a line feed alone or with a carriage return and a
line feed.  Text that is put into a file is first brought to bare line feeds
and then encoded in the file's own style, so that an edit never mixes the two.
-/

namespace Emend

/-- How a file ends its lines. -/
inductive LineEnding where
  /-- A line feed. -/
  | lf
  /-- A carriage return and a line feed. -/
  | crlf
  deriving DecidableEq, Repr

namespace LineEnding

/-- The characters that end a line. -/
def terminator : LineEnding → Text
  | lf => ['\n']
  | crlf => ['\r', '\n']

/-- The name of the style. -/
def name : LineEnding → String
  | lf => "LF"
  | crlf => "CRLF"

/-- A text is in the two-character style as soon as it has one such ending. -/
def detect : Text → LineEnding
  | [] => lf
  | '\r' :: '\n' :: _ => crlf
  | _ :: t => detect t

/-- Every line break, of whichever form, as a bare line feed.  A carriage
return that stands alone is a line break too. -/
def normalize : Text → Text
  | [] => []
  | '\r' :: '\n' :: t => '\n' :: normalize t
  | '\r' :: t => '\n' :: normalize t
  | c :: t => c :: normalize t

/-- Each line feed written in the given style; nothing else is touched. -/
def encode (ending : LineEnding) (t : Text) : Text :=
  Text.replaceChar '\n' ending.terminator t

/-- A text made ready for a file of the given style. -/
def prepare (ending : LineEnding) (t : Text) : Text :=
  ending.encode (normalize t)

example : detect ['a', '\r', '\n', 'b'] = crlf := by decide
example : normalize ['a', '\r', '\r', '\n', 'b', '\r'] = ['a', '\n', '\n', 'b', '\n'] := by decide

end LineEnding

end Emend
