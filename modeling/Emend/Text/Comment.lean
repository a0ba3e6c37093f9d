import Emend.Text.Basic
/-!
# Comments

Comments are blanked, not cut out, so that every place in the masked text is
the same place in the text itself.

* A block comment runs from a slash and a star to the next star and slash;
  without a closing pair it is no comment.
* A line comment runs from a hash or two slashes to the end of the line.
* Inside a double-quoted string nothing starts a comment.  A string ends at
  the next quote that no backslash precedes, or at the end of its line.

Each character of a comment becomes as many spaces as it has bytes; line
breaks in it stay.
-/

namespace Emend.Text

/-- What stands in a comment's place of one character. -/
def blankChar (c : Char) : Text :=
  if c = '\n' ∨ c = '\r' then [c] else List.replicate c.utf8Size ' '

/-- What the next character of the text belongs to. -/
inductive CommentState where
  /-- Ordinary text. -/
  | code
  /-- A string. -/
  | string
  /-- A string, just after a backslash. -/
  | escape
  /-- A comment to the end of the line. -/
  | line
  /-- The star that opens a block comment. -/
  | blockOpen
  /-- A block comment. -/
  | block
  /-- The slash that closes a block comment. -/
  | blockClose
  /-- A star after a slash that opened no comment. -/
  | star
  deriving DecidableEq, Repr

/-- Whether a star and a slash occur in the text. -/
def closesBlock : Text → Bool
  | [] => false
  | c :: t => (c == '*' && t.head? == some '/') || closesBlock t

/-- The state after a character of ordinary text, and whether the character
opens a comment.  `t` is what follows it. -/
def CommentState.afterCode (c : Char) (t : Text) : CommentState × Bool :=
  if c = '"' then (.string, false)
  else if c = '#' then (.line, true)
  else if c = '/' ∧ t.head? = some '*' then
    if closesBlock t.tail then (.blockOpen, true) else (.star, false)
  else if c = '/' ∧ t.head? = some '/' then (.line, true)
  else (.code, false)

/-- The state after a character in a given state, and whether the character
belongs to a comment.  `t` is what follows it. -/
def CommentState.step (state : CommentState) (c : Char) (t : Text) : CommentState × Bool :=
  match state with
  | .code => CommentState.afterCode c t
  | .string =>
    if c = '"' ∨ c = '\n' then (.code, false)
    else if c = '\\' then (.escape, false)
    else (.string, false)
  | .escape => (.string, false)
  | .line => if c = '\n' then (.code, false) else (.line, true)
  | .blockOpen => (.block, true)
  | .block => if c = '*' ∧ t.head? = some '/' then (.blockClose, true) else (.block, true)
  | .blockClose => (.code, true)
  | .star => (.code, false)

/-- The text with its comments blanked, when its first character is in the
given state. -/
def maskFrom (state : CommentState) : Text → Text
  | [] => []
  | c :: t =>
    let (next, comment) := state.step c t
    (if comment then blankChar c else [c]) ++ maskFrom next t

/-- The text with its comments blanked. -/
def maskComments (t : Text) : Text := maskFrom .code t

theorem size_blankChar (c : Char) : size (blankChar c) = c.utf8Size := by
  have spaces : ∀ n, size (List.replicate n ' ') = n := by
    intro n
    induction n with
    | zero => rfl
    | succ n ih =>
        rw [List.replicate_succ, size, ih, show Char.utf8Size ' ' = 1 from rfl]
        omega
  unfold blankChar
  split
  · simp [size]
  · exact spaces _

/-- A mask is as long as the text. -/
theorem size_maskFrom (state : CommentState) (t : Text) : size (maskFrom state t) = size t := by
  induction t generalizing state with
  | nil => rfl
  | cons c t ih =>
      simp only [maskFrom, size_append, ih, size]
      split
      · rw [size_blankChar]
      · simp [size]

example : maskComments "a // b".toList = "a     ".toList := by decide
example : maskComments "\"//\" /*é*/x".toList = "\"//\"       x".toList := by decide
example : maskComments "a /* b".toList = "a /* b".toList := by decide

end Emend.Text
