/-!
# Faults of file operations

The ways in which looking something up in a file tree, or changing it, can
fail, and what is said about each.
-/

namespace Emend

/-- Why a file operation failed. -/
inductive FileError where
  /-- There is no such entry. -/
  | notFound
  /-- There is such an entry already. -/
  | alreadyExists
  /-- Something on the way is no directory. -/
  | notDirectory
  /-- The entry is a directory. -/
  | isDirectory
  /-- The new name holds a NUL. -/
  | invalidArgument
  /-- A name is too long. -/
  | nameTooLong
  /-- Too many links were followed. -/
  | tooManyLinks
  /-- The path holds a NUL. -/
  | nulInPath
  /-- The path is that of the root, which is in no directory. -/
  | noParent
  /-- The operating system refuses it for a reason that the tree does not tell. -/
  | other (code : Nat) (text : String)
  deriving DecidableEq, Repr

namespace FileError

/-- The number by which the operating system knows a fault. -/
def code? : FileError → Option Nat
  | notFound => some 2
  | alreadyExists => some 17
  | notDirectory => some 20
  | isDirectory => some 21
  | invalidArgument => some 22
  | nameTooLong => some 36
  | tooManyLinks => some 40
  | nulInPath | noParent => none
  | other code _ => some code

/-- What a fault is called. -/
def text : FileError → String
  | notFound => "No such file or directory"
  | alreadyExists => "File exists"
  | notDirectory => "Not a directory"
  | isDirectory => "Is a directory"
  | invalidArgument => "Invalid argument"
  | nameTooLong => "File name too long"
  | tooManyLinks => "Too many levels of symbolic links"
  | nulInPath => "file name contained an unexpected NUL byte"
  | noParent => "Path has no parent directory"
  | other _ text => text

/-- What is said about a fault. -/
def message (e : FileError) : String :=
  match e.code? with
  | some n => e.text ++ s!" (os error {n})"
  | none => e.text

example : (other 13 "Permission denied").message = "Permission denied (os error 13)" := by decide

end FileError

end Emend
