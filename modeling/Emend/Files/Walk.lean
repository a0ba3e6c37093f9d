import Emend.Files.Error
import Emend.Files.Tree
/-!
# Walking a file tree

A walk takes the parts of a written path one after another and follows links:
where a link is met, the parts of its target come before those that remain.
The path that is reached holds no link.  At most forty links are followed, so
a walk in a circle ends.

What a path leads to is looked up by a walk: whether there is something, a
directory, or a file with which bytes.
-/

namespace Emend.FileTree

/-- Walks on from a directory.  `jump` walks on after a link, and `follow` says
whether a link that is the last part is followed. -/
def walkWith (tree : FileTree) (follow : Bool) (jump : Path → List Text → Except FileError Path)
    (dir : Path) : List Text → Except FileError Path
  | [] => .ok dir
  | part :: rest =>
    if tree.get? dir ≠ some .directory then .error .notDirectory
    else if Path.isDot part then walkWith tree follow jump dir rest
    else if Path.isDotDot part then walkWith tree follow jump dir.dropLast rest
    else if Path.isLong part then .error .nameTooLong
    else match tree.get? (dir ++ [part]) with
      | none => .error .notFound
      | some (.link target) =>
        if rest.isEmpty && !follow then .ok (dir ++ [part])
        else jump (if Path.isAbsolute target then [] else dir) (Path.parts target ++ rest)
      | some _ => walkWith tree follow jump (dir ++ [part]) rest

/-- Walks on from a directory through at most so many links. -/
def walk (tree : FileTree) (follow : Bool) : Nat → Path → List Text → Except FileError Path
  | 0 => walkWith tree follow fun _ _ => .error .tooManyLinks
  | links + 1 => walkWith tree follow (walk tree follow links)

/-- The greatest number of links that are followed. -/
def maxLinks : Nat := 40

/-- The entry to which the parts of a path lead from the root. -/
def locate (tree : FileTree) (follow : Bool) (parts : List Text) : Except FileError Path :=
  if parts.any Path.hasNul then .error .nulInPath else tree.walk follow maxLinks [] parts

/-- The path without links that leads to the same entry. -/
def canonical (tree : FileTree) (parts : List Text) : Except FileError Path :=
  tree.locate true parts

/-- What a path leads to. -/
def target? (tree : FileTree) (parts : List Text) : Option Node :=
  (tree.canonical parts).toOption.bind tree.get?

/-- Whether a path leads to something. -/
def hasTarget (tree : FileTree) (parts : List Text) : Bool := (tree.target? parts).isSome

/-- Whether a path leads to a directory. -/
def isDirectory (tree : FileTree) (parts : List Text) : Bool :=
  tree.target? parts == some .directory

/-- The bytes of the file that a path leads to. -/
def file? (tree : FileTree) (parts : List Text) : Option Bytes :=
  match tree.target? parts with
  | some (.file bytes) => some bytes
  | _ => none

/-- Whether there is a link at a path. -/
def isLink (tree : FileTree) (parts : List Text) : Bool :=
  match (tree.locate false parts).toOption.bind tree.get? with
  | some (.link _) => true
  | _ => false

/-- The bytes of the file that a path leads to, or why there are none. -/
def read (tree : FileTree) (parts : List Text) : Except FileError Bytes := do
  let path ← tree.canonical parts
  match tree.get? path with
  | some (.file bytes) => return bytes
  | some .directory => throw .isDirectory
  | _ => throw .notFound

/-! ## Written paths

Where nothing is written, there is nothing; it is not the directory that paths are
seen from. -/

/-- The parts that lead from the root to what is written, seen from a directory. -/
def partsFrom (dir : Path) (written : Text) : List Text :=
  if Path.isAbsolute written then Path.parts written else dir ++ Path.parts written

/-- The path without links of what is written, seen from a directory. -/
def canonicalFrom (tree : FileTree) (dir : Path) (written : Text) : Except FileError Path :=
  if written.isEmpty then .error .notFound else tree.canonical (partsFrom dir written)

/-- The bytes of the file of a written path, seen from a directory. -/
def readFrom (tree : FileTree) (dir : Path) (written : Text) : Except FileError Bytes :=
  if written.isEmpty then .error .notFound else tree.read (partsFrom dir written)

/-- Whether a written path, seen from a directory, leads to a directory. -/
def isDirectoryFrom (tree : FileTree) (dir : Path) (written : Text) : Bool :=
  !written.isEmpty && tree.isDirectory (partsFrom dir written)

example : isDirectoryFrom {} [] [] = false := by decide
example : isDirectoryFrom {} [] ['.'] = true := by decide
example : canonicalFrom {} [] [] = .error .notFound := rfl

end Emend.FileTree
