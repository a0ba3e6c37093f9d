import Emend.Text.Basic
/-!
# Lines and their places

A content is cut into lines at line feeds.  The place of a line runs from its
first byte to its last one before the line break; a carriage return before the
break belongs to the break, so a file has the same lines in both styles.  A
content that ends in a line break has an empty last line.

* `lines` and `lineSpans` are the raw lines and their places.
* `lineNumberAt` numbers the lines from one, for any offset.
* `windows` are the runs of a given number of lines.
-/

namespace Emend

/-- A part of a content: the bytes from `start` up to `stop`. -/
structure Span where
  /-- Offset of the first byte. -/
  start : Nat
  /-- Offset just past the last byte. -/
  stop : Nat
  deriving DecidableEq, Repr

namespace Span

/-- The number of bytes. -/
def length (s : Span) : Nat := s.stop - s.start

/-- The same part seen from `by` bytes further left. -/
def shift (s : Span) (n : Nat) : Span := ⟨s.start + n, s.stop + n⟩

/-- The text at this place of a content. -/
def text (s : Span) (content : Text) : Text := content.slice s.start s.stop

end Span

namespace Text

/-- The pieces between line feeds. -/
def lines (t : Text) : List Text := splitOn '\n' t

/-- A line without the carriage return of its line break. -/
def dropReturn (line : Text) : Text := (beforeTail? ['\r'] line).getD line

/-- The places of consecutive lines of which the first starts at `start`. -/
def spansFrom (start : Nat) : List Text → List Span
  | [] => []
  | line :: rest =>
    ⟨start, start + size (dropReturn line)⟩ :: spansFrom (start + size line + 1) rest

/-- The places of the lines of a content. -/
def lineSpans (content : Text) : List Span := spansFrom 0 (lines content)

/-- The number of lines. -/
def lineCount (t : Text) : Nat := (lineSpans t).length

/-- The number of line feeds among the first `n` bytes. -/
def lineFeedsBefore : Nat → Text → Nat
  | 0, _ => 0
  | _, [] => 0
  | n + 1, c :: t => (if c = '\n' then 1 else 0) + lineFeedsBefore (n + 1 - c.utf8Size) t

/-- The number, from one, of the line that holds offset `n`; an offset past
the end is in the last line. -/
def lineNumberAt (n : Nat) (content : Text) : Nat := lineFeedsBefore n content + 1

/-- The lines of a document that is read line by line: a last line that is
empty is none, and a carriage return is dropped only before a line feed. -/
def documentLines (t : Text) : List Text :=
  match (lines t).reverse with
  | [] => []
  | final :: earlier =>
    let closed := (earlier.map dropReturn).reverse
    if final.isEmpty then closed else closed ++ [final]

/-- The places of every run of `n` consecutive lines, in order: each from the
start of its first line to the end of its last. -/
def windows (n : Nat) : List Span → List Span
  | [] => []
  | first :: rest =>
    if n = 0 then []
    else match (first :: rest)[n - 1]? with
      | some last => ⟨first.start, last.stop⟩ :: windows n rest
      | none => []

example : lineSpans ['a', '\r', '\n', 'b', '\n'] = [⟨0, 1⟩, ⟨3, 4⟩, ⟨5, 5⟩] := by decide
example : windows 2 (lineSpans ['a', '\n', 'b', '\n', 'c']) = [⟨0, 3⟩, ⟨2, 5⟩] := by decide
example : lineNumberAt 2 ['a', '\n', 'b'] = 2 := by decide
example : documentLines ['a', '\r', '\n', 'b', '\r'] = [['a'], ['b', '\r']] := by decide

end Text

end Emend
