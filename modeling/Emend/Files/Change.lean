import Emend.Files.Refusals
import Emend.Files.Walk
/-!
# Changes of a file tree

Each change acts in one directory: the one that the path without its last name
leads to.

* `makeDir` and `makeDirs` make directories; `makeDirs` makes those above as
  well, and keeps what it has made when it fails.
* `replaceFile` puts a file at a path, in place of a file or a link that is
  there.  Either all of the bytes are there afterwards or nothing has changed.
* `remove` removes a file or a link.
* `copyFile` copies the bytes of a file; a link at the new path is followed.

Directories are made one by one, and each of them may be refused; for the other
changes it is up to the caller to ask (`Refusals`).
-/

namespace Emend.FileTree

/-- The entry of a path: its last name in the directory that the rest leads to. -/
def entryOf (tree : FileTree) (path : Path) : Except FileError Path :=
  match path.getLast? with
  | none => .error .alreadyExists
  | some name => do
    if path.any Path.hasNul then throw .nulInPath
    let dir ← tree.canonical path.dropLast
    if tree.get? dir ≠ some .directory then throw .notDirectory
    if Path.isLong name then throw .nameTooLong
    return dir ++ [name]

/-- The tree with one more directory. -/
def makeDir (path : Path) (tree : FileTree) (refusals : Refusals := {}) :
    Except FileError FileTree := do
  let entry ← tree.entryOf path
  if (tree.get? entry).isSome then throw .alreadyExists
  match refusals.makeDir tree path with
  | some e => throw e
  | none => return tree.put entry .directory

/-- Makes the last directory of a path whose directories above are there. -/
def ensureDir (path : Path) (tree : FileTree) (refusals : Refusals := {}) :
    FileTree × Except FileError Unit :=
  match tree.makeDir path refusals with
  | .ok tree => (tree, .ok ())
  | .error e => (tree, if tree.isDirectory path then .ok () else .error e)

/-- Makes a directory and those above it; the names come last one first. -/
def makeDirsUp (tree : FileTree) (refusals : Refusals) :
    List Text → FileTree × Except FileError Unit
  | [] => tree.ensureDir [] refusals
  | name :: above =>
    let path := (name :: above).reverse
    match tree.makeDir path refusals with
    | .error .notFound =>
      match tree.makeDirsUp refusals above with
      | (tree, .ok ()) => tree.ensureDir path refusals
      | (tree, .error e) => (tree, .error e)
    | _ => tree.ensureDir path refusals

/-- Makes a directory and those above it. -/
def makeDirs (path : Path) (tree : FileTree) (refusals : Refusals := {}) :
    FileTree × Except FileError Unit :=
  tree.makeDirsUp refusals path.reverse

/-- The tree with a file at a path, whatever file or link was there. -/
def replaceFile (path : Path) (bytes : Bytes) (tree : FileTree) : Except FileError FileTree := do
  if path.isEmpty then throw .noParent
  if path.any Path.hasNul then throw .invalidArgument
  let entry ← tree.entryOf path
  if tree.get? entry = some .directory then throw .isDirectory
  return tree.put entry (.file bytes)

/-- The tree without the file or the link at a path. -/
def remove (path : Path) (tree : FileTree) : Except FileError FileTree := do
  let entry ← tree.entryOf path
  match tree.get? entry with
  | none => throw .notFound
  | some .directory => throw .isDirectory
  | some _ => return tree.erase entry

/-- The entry that is written to at a path: the one that it leads to, or a new
one if there is nothing at the path. -/
def writeEntry (path : Path) (tree : FileTree) : Except FileError Path :=
  match tree.canonical path with
  | .ok entry => if tree.get? entry = some .directory then .error .isDirectory else .ok entry
  | .error .notFound => do
    let entry ← tree.entryOf path
    if (tree.get? entry).isSome then throw .notFound
    return entry
  | .error e => .error e

/-- The tree with what is kept of the bytes of one file written to another path.
What was there is emptied before the bytes are read. -/
def copyFile (keep : Bytes → Bytes) (source destination : Path) (tree : FileTree) :
    Except FileError FileTree := do
  let _ ← tree.read source
  let entry ← tree.writeEntry destination
  let emptied := tree.put entry (.file [])
  let bytes ← emptied.read source
  return emptied.put entry (.file (keep bytes))

end Emend.FileTree
