import Emend.Match.Options
/-!
# Patch documents

A patch document names files and, for each of them, what is to be done with it.
-/

namespace Emend

/-- The kinds of what can be done with a file. -/
inductive ActionKind where
  /-- Replace a text that is found. -/
  | replace
  /-- Insert lines before a text that is found. -/
  | insertBefore
  /-- Insert lines after a text that is found. -/
  | insertAfter
  /-- Delete a text that is found. -/
  | delete
  /-- Create the file. -/
  | createFile
  /-- Replace all that the file holds. -/
  | replaceFile
  /-- Delete the file. -/
  | deleteFile
  /-- Move the file to another path. -/
  | moveFile
  deriving DecidableEq, Repr

/-- The name of a kind in documents and reports. -/
def ActionKind.name : ActionKind → String
  | replace => "replace"
  | insertBefore => "insert_before"
  | insertAfter => "insert_after"
  | delete => "delete"
  | createFile => "create_file"
  | replaceFile => "replace_file"
  | deleteFile => "delete_file"
  | moveFile => "move_file"

/-- What is to be done with a file. -/
inductive Action where
  /-- Replace a text that is found. -/
  | replace (find replacement : Text) (options : MatchOptions)
  /-- Insert lines before a text that is found. -/
  | insertBefore (marker content : Text) (options : MatchOptions)
  /-- Insert lines after a text that is found. -/
  | insertAfter (marker content : Text) (options : MatchOptions)
  /-- Delete a text that is found. -/
  | delete (find : Text) (options : MatchOptions)
  /-- Create the file. -/
  | createFile (content : Text)
  /-- Replace all that the file holds. -/
  | replaceFile (content : Text)
  /-- Delete the file. -/
  | deleteFile
  /-- Move the file to another path; `overwrite` allows it to take the place of
  another file. -/
  | moveFile (destination : Text) (overwrite : Bool)
  deriving Repr

namespace Action

/-- The kind of an action. -/
def kind : Action → ActionKind
  | replace .. => .replace
  | insertBefore .. => .insertBefore
  | insertAfter .. => .insertAfter
  | delete .. => .delete
  | createFile _ => .createFile
  | replaceFile _ => .replaceFile
  | deleteFile => .deleteFile
  | moveFile .. => .moveFile

/-- The name of an action in documents and reports. -/
def name (a : Action) : String := a.kind.name

end Action

/-- A file and what is to be done with it. -/
structure FilePatch where
  /-- The path of the file, from the base directory. -/
  path : Text
  /-- What the patch is for. -/
  description : Text
  /-- What is to be done. -/
  action : Action
  deriving Repr

/-- What a document says about itself. -/
structure Metadata where
  /-- Its name. -/
  name : Text := "Unnamed".toList
  /-- What it is for. -/
  description : Text := []
  /-- Who wrote it. -/
  author : Text := "Unknown".toList
  /-- Its version. -/
  version : Text := "1.0".toList
  deriving DecidableEq, Repr

/-- A patch document. -/
structure PatchDocument where
  /-- What it says about itself. -/
  metadata : Metadata
  /-- Its file patches, in order. -/
  files : List FilePatch
  deriving Repr

end Emend
