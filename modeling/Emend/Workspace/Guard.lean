import Emend.Files.Walk
/-!
# The guard of the base directory

A document names files by paths from the base directory.  The guard turns such
a written path into a path of the file tree and refuses it if it could lead
outside.

* A path from the root is refused.
* A part `..` takes away the name before it, whatever that name leads to; a
  path that climbs above the base is refused.
* Of the path and the directories above it, the nearest one at which there is
  something must lead to a place in the base, so no link leads outside.
-/

namespace Emend

/-- Why a written path is refused. -/
inductive GuardError where
  /-- It starts at the root. -/
  | absolute (written : Text)
  /-- It leads outside. -/
  | outside (place base : Text)
  /-- It could not be followed. -/
  | unresolved (error : FileError)
  deriving DecidableEq, Repr

/-- What is said about a path that is refused. -/
def GuardError.message : GuardError → String
  | absolute written => "Absolute paths are not allowed: " ++ String.ofList written
  | outside place base =>
    "Path is outside base directory: " ++ String.ofList place ++ " (base: " ++
      String.ofList base ++ ")"
  | unresolved error => "Failed to canonicalize path: " ++ error.message

namespace Guard

/-- The names that remain of the parts of a path, after those in `names`; none
if a part `..` finds no name to take away. -/
def fold (names : Path) : List Text → Option Path
  | [] => some names
  | part :: rest =>
    if Path.isDot part then fold names rest
    else if Path.isDotDot part then
      if names.isEmpty then none else fold names.dropLast rest
    else fold (names ++ [part]) rest

/-- The nearest of a path and those above it at which there is something; the
names come last one first. -/
def nearest (tree : FileTree) : List Text → Path
  | [] => []
  | name :: above =>
    let path := (name :: above).reverse
    if tree.hasTarget path || tree.isLink path then path else nearest tree above

/-- That a path leads to no place outside the base. -/
def check (tree : FileTree) (base path : Path) : Except GuardError Unit :=
  let existing := nearest tree path.reverse
  match tree.canonical existing with
  | .ok place =>
    if Path.isWithin base place then .ok ()
    else .error (.outside (Path.display place) (Path.display base))
  | .error e =>
    if tree.isLink existing then .error (.outside (Path.display path) (Path.display base))
    else .error (.unresolved e)

/-- The path of the file tree for a written path from the base. -/
def resolve (tree : FileTree) (base : Path) (written : Text) : Except GuardError Path :=
  if Path.isAbsolute written then .error (.absolute written)
  else match fold [] (Path.parts written) with
    | none =>
      .error (.outside (Path.joinText (Path.display base) written) (Path.display base))
    | some names => do
      check tree base (base ++ names)
      return base ++ names

example : fold [] [['a'], ['.', '.'], [], ['b']] = some [['b']] := by decide
example : fold [] [['a'], ['.', '.'], ['.', '.']] = none := by decide

end Guard

end Emend
