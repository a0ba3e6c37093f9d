import Emend.Edit
import Emend.Match.Find
import Emend.Text.Indent
/-!
# Planned edits

An action that looks for a text is planned on the content of its file alone:
either the text is not there, or there is one edit that does what the action
says, and a summary of it for the report.

Text that is put in has the line endings of the file.  Lines that are put in
come before or after the match as a whole; a replacement takes over the
indentation of the line in which the match starts.
-/

namespace Emend

/-- What is done where a text is found. -/
inductive Change where
  /-- Another text takes its place. -/
  | replaced (replacement : Text)
  /-- Lines are put in before it. -/
  | before (lines : Text)
  /-- Lines are put in after it. -/
  | after (lines : Text)
  /-- It is taken away. -/
  | deleted
  deriving DecidableEq, Repr

namespace Plan

/-! ## Replacements -/

/-- The part of the line of `offset` before it, and the whole line. -/
def lineAround (content : Text) (offset : Nat) : Text × Text :=
  match Text.splitAt? offset content with
  | none => ([], [])
  | some (head, rest) =>
    let before := ((Text.lines head).getLast?).getD []
    (before, before ++ Text.before (· == '\n') rest)

/-- A replacement for a match at `offset`, indented like the line in which the
match starts.  Of the indentation, its first line gets what the match covers. -/
def reindented (content : Text) (offset : Nat) (replacement : Text) (ending : LineEnding) : Text :=
  let (before, line) := lineAround content offset
  let indent := Text.indentOf line
  let text := Text.reindent indent ending replacement
  match Text.afterLead? indent text with
  | some rest => if indent.isEmpty then text else (Text.afterLead? before indent).getD [] ++ rest
  | none => text

/-! ## Summaries -/

/-- The number of the last line of a match; line breaks at its end do not count. -/
def lastLine (content : Text) (m : Match) : Nat :=
  let body := Text.dropEndWhile (fun c => c == '\r' || c == '\n') m.text
  Text.lineNumberAt (m.span.start + Text.size body) content

/-- The lines of a match. -/
def lineRange (content : Text) (m : Match) : String :=
  let first := Text.lineNumberAt m.span.start content
  let last := lastLine content m
  if first = last then s!"line {first}" else s!"lines {first}-{last}"

/-- The number of lines of a text. -/
def lineNoun (t : Text) : String :=
  let n := max (Text.documentLines t).length 1
  if n = 1 then "1 line" else s!"{n} lines"

/-- The edit of a change at a match. -/
def edit (content : Text) (m : Match) (ending : LineEnding) (change : Change)
    (hash : Text → UInt64 := Text.digest) : Edit :=
  match change with
  | .replaced t => Edit.ofMatch m (reindented content m.span.start t ending) hash
  | .before t => Edit.insertion m.span.start (ending.prepare t ++ ending.terminator) hash
  | .after t => Edit.insertion m.span.stop (ending.terminator ++ ending.prepare t) hash
  | .deleted => Edit.ofMatch m [] hash

/-- What a change at a match has done. -/
def summary (content : Text) (m : Match) (mode : MatchMode) (change : Change) : String :=
  let done := match change with
    | .replaced _ => "Replaced " ++ lineRange content m
    | .before t =>
      "Inserted " ++ lineNoun t ++ s!" before line {Text.lineNumberAt m.span.start content}"
    | .after t => "Inserted " ++ lineNoun t ++ s!" after line {lastLine content m}"
    | .deleted => "Deleted " ++ lineRange content m
  done ++ " (mode: " ++ mode.name ++ ")"

/-- What is said if the text is not found. -/
def notFound (mode : MatchMode) (change : Change) : String :=
  let what := match change with
    | .before _ | .after _ => "Marker"
    | .replaced _ | .deleted => "Block"
  what ++ " not found (mode: " ++ mode.name ++ ")"

end Plan

/-- What comes of an action that looks for a text. -/
inductive Planned where
  /-- The text is not there. -/
  | notFound (message : String)
  /-- The content afterwards, and what was done. -/
  | edited (content : Text) (summary : String)
  deriving DecidableEq, Repr

/-- Plans a change at the match of a pattern. -/
def plan (content pattern : Text) (options : MatchOptions) (change : Change)
    (hash : Text → UInt64 := Text.digest) : Except EditError Planned :=
  match findMatch content pattern options with
  | none => .ok (.notFound (Plan.notFound options.mode change))
  | some m =>
    ((Plan.edit content m (LineEnding.detect content) change hash).splice content hash).map
      fun after => .edited after (Plan.summary content m options.mode change)

end Emend
