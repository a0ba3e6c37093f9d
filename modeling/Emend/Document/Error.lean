import Emend.Pattern.Syntax
/-!
# Faults of patch documents

Each way in which a document can be no patch document, and what is said about
it.  A fault is told by the file section in which it lies or by its line.
-/

namespace Emend

/-- Why a text is no patch document. -/
inductive DocumentError where
  /-- No line starts a patch. -/
  | missingHeader
  /-- A file section names no path. -/
  | missingPath (line : Nat)
  /-- A file section has no action. -/
  | missingAction (file : Text)
  /-- The action of a file section is none. -/
  | unknownAction (file action : Text) (suggestion : Option Text)
  /-- An action lacks one of its blocks. -/
  | missingBlock (file : Text) (action block : String)
  /-- A block is not closed. -/
  | unterminatedBlock (block : Text) (line : Nat)
  /-- A mode is none. -/
  | unknownMode (file value : Text) (suggestion : Option Text)
  /-- The scope of an anchor is none. -/
  | unknownScope (file value : Text)
  /-- An option has a value that it cannot have. -/
  | invalidOption (file : Text) (key : String) (value : Text) (reason : String)
  /-- A line range is none. -/
  | invalidLineRange (file range : Text)
  /-- A pattern is none, for this reason. -/
  | invalidPattern (file : Text) (error : Pattern.PatternError)
  deriving DecidableEq, Repr

namespace DocumentError

/-- The mention of a suggestion. -/
def suggestionText : Option Text → String
  | some s => " (did you mean `" ++ String.ofList s ++ "`?)"
  | none => ""

/-- A text between backticks. -/
def quoted (t : Text) : String := "`" ++ String.ofList t ++ "`"

/-- What is said about a fault. -/
def message : DocumentError → String
  | missingHeader =>
    "Patch header not found (expected a line starting with `### PATCH:` or " ++
      "`=== PATCH START ===`)"
  | missingPath line => s!"File section at line {line} does not name a target path"
  | missingAction file => "File section " ++ quoted file ++ " has no action"
  | unknownAction file action suggestion =>
    "Unknown action " ++ quoted action ++ " for " ++ quoted file ++ suggestionText suggestion
  | missingBlock file action block =>
    s!"Missing {block} block for {action} action in " ++ quoted file
  | unterminatedBlock block line =>
    "Unterminated " ++ String.ofList block ++ s!" block starting at line {line}"
  | unknownMode file value suggestion =>
    "Unknown match mode " ++ quoted value ++ " in " ++ quoted file ++ suggestionText suggestion
  | unknownScope file value =>
    "Unknown anchor scope " ++ quoted value ++ " in " ++ quoted file ++
      " (expected auto, function, class, block or file)"
  | invalidOption file key value reason =>
    "Invalid value " ++ quoted value ++ s!" for {key} in " ++ quoted file ++ s!": {reason}"
  | invalidLineRange file range =>
    "Invalid line range " ++ quoted range ++ " in " ++ quoted file ++
      " (expected `N` or `N-M` with 1 <= N <= M)"
  | invalidPattern file error => "Invalid regex in " ++ quoted file ++ ": " ++ error.message

end DocumentError

end Emend
