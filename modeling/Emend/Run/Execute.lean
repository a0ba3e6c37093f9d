import Emend.Document.Basic
import Emend.Run.Plan
import Emend.Workspace.Session
/-!
# Executing file patches

A file patch acts on the file that its path leads to.  Whatever happens, there
is a result: a file patch that cannot be carried out says so and stops none of
those that follow.
-/

namespace Emend

/-- How a file patch ended. -/
inductive Status where
  /-- It was carried out. -/
  | success
  /-- There was nothing to do. -/
  | skipped
  /-- It could not be carried out. -/
  | failed
  /-- Its file does not exist. -/
  | fileNotFound
  deriving DecidableEq, Repr

/-- The name of a status in reports. -/
def Status.name : Status → String
  | success => "success"
  | skipped => "skipped"
  | failed => "failed"
  | fileNotFound => "file_not_found"

/-- How a file patch ended, and what is said about it. -/
structure Outcome where
  /-- How it ended. -/
  status : Status
  /-- What is said about it. -/
  message : String
  /-- What the file holds afterwards, if the file patch wrote it. -/
  newContent : Option Text := none
  deriving DecidableEq, Repr

/-- The result of a file patch. -/
structure PatchResult where
  /-- The path of the file as the document has it. -/
  file : Text
  /-- The description. -/
  description : Text
  /-- The action. -/
  action : ActionKind
  /-- How it ended. -/
  outcome : Outcome
  deriving DecidableEq, Repr

namespace Session

/-- The session after an operation, with its outcome; a fault is told after
`failing`. -/
def concluding (failing : String) (success : Outcome) :
    Session × Except FileError Unit → Session × Outcome
  | (s, .ok ()) => (s, success)
  | (s, .error e) => (s, ⟨.failed, failing ++ e.message, none⟩)

/-- Writes a text to a file. -/
def save (s : Session) (path : Path) (content : Text) (failing message : String) :
    Session × Outcome :=
  concluding (failing ++ "File I/O error: ") ⟨.success, message, some content⟩
    (s.write path (Utf8.encode content))

/-- Creates a file. -/
def createFile (s : Session) (path : Path) (content : Text) : Session × Outcome :=
  if s.isFile path then (s, { status := .skipped, message := "File already exists" })
  else
    s.save path content "Failed to create file: "
      s!"Created file ({content.length} characters)"

/-- Replaces all that a file holds. -/
def overwriteFile (s : Session) (path : Path) (content : Text) : Session × Outcome :=
  if s.isFile path then
    s.save path content "Failed to replace file: "
      s!"Replaced entire file content ({content.length} characters)"
  else (s, { status := .fileNotFound, message := "File does not exist" })

/-- Deletes a file. -/
def deleteFile (s : Session) (path : Path) : Session × Outcome :=
  if s.isFile path then
    concluding "Failed to delete file: " { status := .success, message := "Deleted file" }
      (s.remove path)
  else (s, { status := .skipped, message := "File does not exist" })

/-- Moves a file to a written path. -/
def moveFile (s : Session) (source : Path) (written : Text) (overwrite : Bool) :
    Session × Outcome :=
  if s.isFile source then
    match s.resolve written with
    | .error e => (s, { status := .failed, message := e.message })
    | .ok destination =>
      if destination = source then
        (s, { status := .skipped, message := "Source and destination are the same file" })
      else if s.isFile destination && !overwrite then
        (s, { status := .failed
              message := "Destination already exists (set OVERWRITE: true to replace it)" })
      else
        concluding "Failed to move file: "
          { status := .success, message := "Moved file to " ++ String.ofList written }
          (s.move source destination)
  else (s, { status := .fileNotFound, message := "Source file does not exist" })

/-- Makes a change where a pattern is found in a file. -/
def editFile (s : Session) (path : Path) (pattern : Text) (options : MatchOptions)
    (change : Change) : Session × Outcome :=
  match s.file? path with
  | none => (s, { status := .fileNotFound, message := "File does not exist" })
  | some bytes =>
    match Utf8.decode bytes with
    | .error e => (s, { status := .failed, message := "Failed to read file: " ++ e.message })
    | .ok content =>
      match plan content pattern options change s.hash with
      | .error e =>
        (s, { status := .failed, message := "Edit verification failed: " ++ e.message })
      | .ok (.notFound message) => (s, { status := .skipped, message })
      | .ok (.edited after summary) =>
        if after = content then (s, { status := .skipped, message := "Content unchanged" })
        else s.save path after "Failed to write file: " summary

/-- Carries out an action on the file at a path. -/
def perform (s : Session) (path : Path) : Action → Session × Outcome
  | .replace find replacement options => s.editFile path find options (.replaced replacement)
  | .insertBefore marker content options => s.editFile path marker options (.before content)
  | .insertAfter marker content options => s.editFile path marker options (.after content)
  | .delete find options => s.editFile path find options .deleted
  | .createFile content => s.createFile path content
  | .replaceFile content => s.overwriteFile path content
  | .deleteFile => s.deleteFile path
  | .moveFile destination overwrite => s.moveFile path destination overwrite

/-- Carries out a file patch. -/
def execute (s : Session) (patch : FilePatch) : Session × PatchResult :=
  let (s, outcome) := match s.resolve patch.path with
    | .ok path => s.perform path patch.action
    | .error e => (s, { status := .failed, message := e.message })
  (s, ⟨patch.path, patch.description, patch.action.kind, outcome⟩)

/-- Carries out file patches one after another. -/
def executeAll (s : Session) : List FilePatch → Session × List PatchResult
  | [] => (s, [])
  | patch :: rest =>
    let (s, result) := s.execute patch
    let (s, results) := s.executeAll rest
    (s, result :: results)

end Session

end Emend
