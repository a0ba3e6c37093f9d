import Emend.Document.Parser
import Emend.Run.Execute
/-!
# Requests

A request applies a whole document to a base directory, or only says whether
the document is valid.  A document that cannot be read changes nothing; one
that can be read has one result for each of its file patches.
-/

namespace Emend

/-- How many results ended in which way. -/
structure Stats where
  /-- Carried out. -/
  success : Nat := 0
  /-- Nothing to do. -/
  skipped : Nat := 0
  /-- Not carried out, for whatever reason. -/
  failed : Nat := 0
  deriving DecidableEq, Repr

namespace Stats

/-- The counts with one more status. -/
def add (stats : Stats) : Status → Stats
  | .success => { stats with success := stats.success + 1 }
  | .skipped => { stats with skipped := stats.skipped + 1 }
  | .failed | .fileNotFound => { stats with failed := stats.failed + 1 }

/-- The counts of some results. -/
def ofResults (results : List PatchResult) : Stats :=
  results.foldl (fun stats r => stats.add r.outcome.status) {}

end Stats

/-- What came of applying a document. -/
structure ApplyReport where
  /-- What the document says about itself. -/
  metadata : Metadata
  /-- Whether nothing was changed. -/
  dryRun : Bool
  /-- The results of its file patches, in order. -/
  results : List PatchResult

namespace ApplyReport

/-- How many results ended in which way. -/
def stats (r : ApplyReport) : Stats := Stats.ofResults r.results

/-- Whether some file patch was not carried out. -/
def hasFailures (r : ApplyReport) : Bool := 0 < r.stats.failed

end ApplyReport

/-- Why a document was not applied. -/
inductive ApplyError where
  /-- There is no base directory. -/
  | baseMissing (written : Text)
  /-- The base directory cannot be used. -/
  | baseInvalid (error : GuardError)
  /-- The document is none. -/
  | invalidDocument (error : DocumentError)
  deriving DecidableEq, Repr

/-- What is said about a document that was not applied. -/
def ApplyError.message : ApplyError → String
  | baseMissing written => "Base directory does not exist: " ++ String.ofList written
  | baseInvalid error => "Invalid base directory: " ++ error.message
  | invalidDocument error => "Failed to parse patch: " ++ error.message

/-- The base directory of sessions, without links, if this may be told. -/
def rootFrom (tree : FileTree) (directory : Path) (base : Text) (refusals : Refusals := {}) :
    Except FileError Path := do
  let root ← tree.canonicalFrom directory base
  match refusals.canonical tree root with
  | some e => throw e
  | none => return root

/-- Applies a document to a base directory, which is written as a path that is
seen from the given directory. -/
def apply (tree : FileTree) (directory : Path) (base document : Text) (dryRun : Bool)
    (defaults : MatchDefaults) (refusals : Refusals := {}) :
    FileTree × Except ApplyError ApplyReport :=
  if !tree.isDirectoryFrom directory base then (tree, .error (.baseMissing base))
  else match Document.parse defaults document with
    | .error e => (tree, .error (.invalidDocument e))
    | .ok parsed =>
      match rootFrom tree directory base refusals with
      | .error e => (tree, .error (.baseInvalid (.unresolved e)))
      | .ok root =>
        let (session, results) :=
          Session.executeAll { base := root, dryRun, tree, refusals } parsed.files
        (session.tree, .ok { metadata := parsed.metadata, dryRun, results })

/-- Whether a text is a patch document. -/
inductive ValidateReport where
  /-- It is one, with so many file patches. -/
  | valid (metadata : Metadata) (fileCount : Nat)
  /-- It is none. -/
  | invalid (error : DocumentError)
  deriving DecidableEq, Repr

/-- Says whether a text is a patch document. -/
def validate (document : Text) (defaults : MatchDefaults) : ValidateReport :=
  match Document.parse defaults document with
  | .ok parsed => .valid parsed.metadata parsed.files.length
  | .error e => .invalid e

end Emend
