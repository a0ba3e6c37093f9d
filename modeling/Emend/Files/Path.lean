import Emend.Text.Basic
/-!
# Paths

A path leads from the root of the file tree to an entry: it is the list of the
names that are passed.  A written path is cut at its slashes; its parts may
also be empty or dots, which stand for no name.
-/

namespace Emend

/-- The names from the root on. -/
abbrev Path := List Text

namespace Path

/-- A path as it is written. -/
def display : Path → Text
  | [] => ['/']
  | names => names.flatMap fun name => '/' :: name

/-- The parts of a written path. -/
def parts (written : Text) : List Text := Text.splitOn '/' written

/-- Whether a written path starts at the root. -/
def isAbsolute (written : Text) : Bool := Text.startsWith ['/'] written

/-- A written path put after another one; one that starts at the root stands
alone. -/
def joinText (dir written : Text) : Text :=
  if isAbsolute written then written
  else if dir.isEmpty || Text.endsWith ['/'] dir then dir ++ written
  else dir ++ '/' :: written

/-- Whether the second path is the first one or lies below it. -/
def isWithin (root path : Path) : Bool := root.isPrefixOf path

/-- Whether a part stands for no name. -/
def isDot (part : Text) : Bool := part.isEmpty || part == ['.']

/-- Whether a part stands for the directory above. -/
def isDotDot (part : Text) : Bool := part == ['.', '.']

/-- The greatest size of a name. -/
def maxName : Nat := 255

/-- Whether a part is longer than names can be. -/
def isLong (part : Text) : Bool := maxName < Text.size part

/-- Whether a part holds the character that no name can hold. -/
def hasNul (part : Text) : Bool := part.contains '\x00'

example : display [['a'], ['b']] = ['/', 'a', '/', 'b'] := by decide
example : joinText ['a'] ['b'] = ['a', '/', 'b'] := by decide

end Path

end Emend
