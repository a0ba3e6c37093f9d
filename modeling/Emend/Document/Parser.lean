import Emend.Document.Build
import Emend.Text.Line
/-!
# Reading a document

A document is read once, line by line; what has been read so far is a `State`.

* Everything before the start of a patch is passed over.
* The fields that follow describe the patch, up to a separator or the header of
  a file section.
* Then come the file sections.  Inside a block every line is text, whatever it
  looks like, until the line that closes the block.
* The end of the patch ends the reading; what follows does not count.

The first fault ends the reading too.
-/

namespace Emend.Document

/-- What has been read of a patch. -/
structure Progress where
  /-- What the patch says about itself. -/
  metadata : Metadata
  /-- The file patches of the sections that are complete. -/
  files : List FilePatch := []
  /-- The section that is being read. -/
  current : Option Section := none

/-- Where the reading stands. -/
inductive State where
  /-- Before the start of a patch. -/
  | seeking
  /-- Among the fields that describe the patch. -/
  | heading (metadata : Metadata)
  /-- Among the file sections. -/
  | reading (progress : Progress)
  /-- In a block that was opened on the given line; with its lines so far, the
  last one first. -/
  | inBlock (progress : Progress) (fence : Fence) (opened : Nat) (body : List Text)
  /-- After the end. -/
  | done (document : PatchDocument)
  /-- After a fault. -/
  | failed (error : DocumentError)

/-- What a patch says about itself, with one more field. -/
def describe (key value : Text) (m : Metadata) : Metadata :=
  if key = "DESCRIPTION".toList then { m with description := value }
  else if value.isEmpty then m
  else if key = "NAME".toList then { m with name := value }
  else if key = "AUTHOR".toList then { m with author := value }
  else if key = "VERSION".toList then { m with version := value }
  else m

/-- The text of a block: its lines, without the line breaks at its end. -/
def blockText (body : List Text) : Text :=
  Text.dropEndWhile (fun c => c == '\r' || c == '\n') (Text.join ['\n'] body.reverse)

namespace Progress

variable (defaults : MatchDefaults)

/-- What has been read, with the current section complete. -/
def closeSection (p : Progress) : Except DocumentError Progress :=
  match p.current with
  | none => .ok p
  | some s => do
    let patch ← s.build defaults
    return { p with files := p.files ++ [patch], current := none }

/-- The document of which everything has been read. -/
def finish (p : Progress) : Except DocumentError PatchDocument := do
  let p ← p.closeSection defaults
  return ⟨p.metadata, p.files⟩

/-- What has been read, with a change of the current section if there is one. -/
def inSection (f : Section → Section) (p : Progress) : Progress :=
  { p with current := p.current.map f }

/-- What has been read, with a new section begun. -/
def beginSection (header : Text) (line : Nat) (p : Progress) : Except DocumentError Progress := do
  let p ← p.closeSection defaults
  let s ← Section.ofHeader header line
  return { p with current := some s }

end Progress

namespace State

variable (defaults : MatchDefaults)

/-- The state after a step that may fail. -/
def ofResult {α : Type} (next : α → State) : Except DocumentError α → State
  | .ok a => next a
  | .error e => failed e

/-- One more line among the file sections. -/
def stepReading (number : Nat) (line : Line) (p : Progress) : State :=
  match line with
  | .patchEnd => ofResult done (p.finish defaults)
  | .fileHeader header => ofResult reading (p.beginSection defaults header number)
  | .separator => ofResult reading (p.closeSection defaults)
  | .fence f => inBlock p f number []
  | .field key value => reading (p.inSection (·.addField key value))
  | .option key value => reading (p.inSection (·.addOption key value))
  | .patchStart _ | .other => reading p

/-- One more line, with its number. -/
def step (state : State) (number : Nat) (raw : Text) : State :=
  match state with
  | seeking =>
    match Line.ofText raw with
    | .patchStart [] => heading {}
    | .patchStart name => heading { name }
    | _ => seeking
  | heading m =>
    match Line.ofText raw with
    | .separator => reading { metadata := m }
    | .field key value => heading (describe key value m)
    | .fileHeader header =>
      stepReading defaults number (.fileHeader header) { metadata := m }
    | .patchEnd => stepReading defaults number .patchEnd { metadata := m }
    | _ => heading m
  | reading p => stepReading defaults number (Line.ofText raw) p
  | inBlock p fence opened body =>
    if fence.closes (Text.trim raw) then
      reading (p.inSection (·.addBlock fence (blockText body)))
    else inBlock p fence opened (raw :: body)
  | done document => done document
  | failed e => failed e

/-- The state after lines of which the first has the given number. -/
def run (state : State) (number : Nat) : List Text → State
  | [] => state
  | raw :: rest => run (step defaults state number raw) (number + 1) rest

/-- What has been read when there are no more lines. -/
def finish : State → Except DocumentError PatchDocument
  | seeking => .error .missingHeader
  | heading m => .ok ⟨m, []⟩
  | reading p => p.finish defaults
  | inBlock _ fence opened _ => .error (.unterminatedBlock fence.tagName opened)
  | done document => .ok document
  | failed e => .error e

end State

/-- The patch document that a text is. -/
def parse (defaults : MatchDefaults) (t : Text) : Except DocumentError PatchDocument :=
  (State.run defaults .seeking 1 (Text.documentLines t)).finish defaults

end Emend.Document
