import Emend.Text.Basic
/-!
# Blank characters

The characters of the Unicode property White_Space, and what is made from
them: trimming, the words of a text, and the folding of blank runs.
-/

namespace Emend

/-- Unicode White_Space. -/
def isBlank (c : Char) : Bool :=
  let n := c.toNat
  (9 ≤ n && n ≤ 13) || n == 0x20 || n == 0x85 || n == 0xA0 || n == 0x1680 ||
    (0x2000 ≤ n && n ≤ 0x200A) || n == 0x2028 || n == 0x2029 || n == 0x202F ||
    n == 0x205F || n == 0x3000

namespace Text

/-- The text without the blanks at its start. -/
def trimStart (t : Text) : Text := t.dropWhile isBlank

/-- The text without the blanks at its end. -/
def trimEnd (t : Text) : Text := dropEndWhile isBlank t

/-- The text without the blanks at both ends. -/
def trim (t : Text) : Text := trimEnd (trimStart t)

/-- Whether the text holds blanks only. -/
def allBlank (t : Text) : Bool := t.all isBlank

/-- The longest runs of characters that are not blank. -/
def words : Text → List Text
  | [] => []
  | [c] => if isBlank c then [] else [[c]]
  | c :: d :: t =>
    if isBlank c then words (d :: t)
    else if isBlank d then [c] :: words (d :: t)
    else match words (d :: t) with
      | [] => [[c]]
      | w :: ws => (c :: w) :: ws

/-- Every run of blanks folded into one space. -/
def foldBlanks : Text → Text
  | [] => []
  | c :: t =>
    if isBlank c then
      match t with
      | [] => [' ']
      | d :: _ => if isBlank d then foldBlanks t else ' ' :: foldBlanks t
    else c :: foldBlanks t

/-- The text without its blanks. -/
def dropBlanks (t : Text) : Text := t.filter fun c => !isBlank c

example : words [' ', 'a', 'b', '\t', 'c', ' '] = [['a', 'b'], ['c']] := by decide
example : foldBlanks ['a', ' ', '\t', 'b', ' '] = ['a', ' ', 'b', ' '] := by decide
example : trim [' ', 'a', ' ', 'b', '\n'] = ['a', ' ', 'b'] := by decide

end Text

end Emend
