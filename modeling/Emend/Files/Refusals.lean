import Emend.Files.Error
import Emend.Files.Tree
/-!
# What is refused

A file tree tells whether there is something at a path.  It does not tell who may change
it, whether there is room left, or whether the disk is sound, so a change that the tree
would allow may be refused all the same.  Which changes are refused, and with what fault,
is a parameter; it may depend on the tree as it is then.

*All or nothing.*  A directory is made or not, a file is replaced as a whole or not at all,
and an entry is removed or not.

*Copies.*  A copy is not: when the file that is copied to has been emptied, the copy may
break off after any number of bytes (`CopyRefusal.broken`).

*Places.*  To ask for the path without links is refused, too, even of a directory that is
there.  One reason is known: no path may be longer than `maxPath`, and the one without
links can be longer than the one that was written.
-/

namespace Emend

namespace Path

/-- The greatest size of a path as it is written. -/
def maxPath : Nat := 4095

/-- Whether a path is longer than paths can be written. -/
def isTooLong (path : Path) : Bool := maxPath < Text.size (display path)

end Path

/-- How a copy is refused. -/
inductive CopyRefusal where
  /-- Before anything has changed. -/
  | refused (error : FileError)
  /-- When so many bytes have been copied. -/
  | broken (count : Nat) (error : FileError)
  deriving DecidableEq, Repr

/-- What is refused although the tree would allow it. -/
structure Refusals where
  /-- To make a directory at a path. -/
  makeDir : FileTree → Path → Option FileError := fun _ _ => none
  /-- To put a file at a path. -/
  replaceFile : FileTree → Path → Option FileError := fun _ _ => none
  /-- To remove what is at a path. -/
  remove : FileTree → Path → Option FileError := fun _ _ => none
  /-- To copy from one path to another. -/
  copyFile : FileTree → Path → Path → Option CopyRefusal := fun _ _ _ => none
  /-- To tell that a path is the one without links. -/
  canonical : FileTree → Path → Option FileError := fun _ place =>
    if place.isTooLong then some .nameTooLong else none

end Emend
