import Emend.Edit
import Emend.Files.Change
import Emend.Workspace.Guard
/-!
# Sessions

A session is what the file patches of one request act on: a base directory in a
file tree.  In a dry run the tree stays as it is and what would change is
staged instead, by path; a later file patch sees what is staged in place of
what the tree holds.

`file?` is the view that both kinds of run have in common.

A real run may be refused what it does (`Refusals`); a dry run asks for nothing.
-/

namespace Emend

/-- What a dry run would leave at a path. -/
inductive Staged where
  /-- A file with these bytes. -/
  | written (bytes : Bytes)
  /-- Nothing. -/
  | removed
  deriving DecidableEq, Repr

/-- What the file patches of a request act on. -/
structure Session where
  /-- The base directory, without links. -/
  base : Path
  /-- Whether changes are staged only. -/
  dryRun : Bool
  /-- The file tree. -/
  tree : FileTree
  /-- What is staged. -/
  staged : Path → Option Staged := fun _ => none
  /-- What a real run is refused. -/
  refusals : Refusals := {}
  /-- The digest by which edits know long parts. -/
  hash : Text → UInt64 := Text.digest

namespace Session

/-- The bytes of the file at a path, as the session sees it. -/
def file? (s : Session) (path : Path) : Option Bytes :=
  match s.staged path with
  | some (.written bytes) => some bytes
  | some .removed => none
  | none => s.tree.file? path

/-- Whether the session sees a file at a path. -/
def isFile (s : Session) (path : Path) : Bool := (s.file? path).isSome

/-- The path for a written path. -/
def resolve (s : Session) (written : Text) : Except GuardError Path :=
  Guard.resolve s.tree s.base written

/-- The session with something else staged at a path. -/
def stage (path : Path) (what : Staged) (s : Session) : Session :=
  { s with staged := fun p => if p = path then some what else s.staged p }

/-- The session after a change of the tree that may be refused or fail. -/
def change (s : Session) (refusal : Option FileError)
    (f : FileTree → Except FileError FileTree) : Session × Except FileError Unit :=
  match refusal with
  | some e => (s, .error e)
  | none =>
    match f s.tree with
    | .ok tree => ({ s with tree }, .ok ())
    | .error e => (s, .error e)

/-- The session after an operation that needs the directory of a path. -/
def changeIn (s : Session) (path : Path) (op : Session → Session × Except FileError Unit) :
    Session × Except FileError Unit :=
  match s.tree.makeDirs path.dropLast s.refusals with
  | (tree, .ok ()) => op { s with tree }
  | (tree, .error e) => ({ s with tree }, .error e)

/-- Replaces the file at a path whose directory is there. -/
def replace (path : Path) (bytes : Bytes) (s : Session) : Session × Except FileError Unit :=
  s.change (s.refusals.replaceFile s.tree path) (FileTree.replaceFile path bytes)

/-- Writes a file. -/
def write (s : Session) (path : Path) (bytes : Bytes) : Session × Except FileError Unit :=
  if s.dryRun then (s.stage path (.written bytes), .ok ())
  else s.changeIn path (replace path bytes)

/-- Removes a file. -/
def remove (s : Session) (path : Path) : Session × Except FileError Unit :=
  if s.dryRun then (s.stage path .removed, .ok ())
  else s.change (s.refusals.remove s.tree path) (FileTree.remove path)

/-- Copies a file to a path whose directory is there; what a copy that breaks off
has copied stays. -/
def copy (source destination : Path) (s : Session) : Session × Except FileError Unit :=
  match s.refusals.copyFile s.tree source destination with
  | none => s.change none (FileTree.copyFile id source destination)
  | some (.refused e) => (s, .error e)
  | some (.broken count e) =>
    match s.tree.copyFile (List.take count) source destination with
    | .ok tree => ({ s with tree }, .error e)
    | .error e => (s, .error e)

/-- Moves a file: its bytes are copied and then it is removed. -/
def move (s : Session) (source destination : Path) : Session × Except FileError Unit :=
  if s.dryRun then
    match s.file? source with
    | some bytes => ((s.stage destination (.written bytes)).stage source .removed, .ok ())
    | none => (s, .error .notFound)
  else
    match s.changeIn destination (copy source destination) with
    | (s, .ok ()) => s.remove source
    | (s, .error e) => (s, .error e)

end Session

end Emend
