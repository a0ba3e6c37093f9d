import Emend.Text.Number
import Emend.Unicode.Recent
/-!
# Quoted texts

A text that is shown in a message stands between double quotes, in a form in
which each character can be told from its neighbours.  A character that is not
visible by itself is shown by its code point: control and format characters,
blanks other than the space, code points without a character, and marks that
combine with the character before them.
-/

namespace Emend.Quoted

/-- The characters that are shown by their code points. -/
def hiddenChars : CharSet :=
  CharSet.unions
    (Recent.graphemeExtend :: Recent.unassigned ::
      [Category.cc, .cf, .cs, .co, .zl, .zp, .zs].map Category.chars)

/-- Whether a character is shown by its code point. -/
def isHidden (c : Char) : Bool :=
  if c.toNat < 0x7F then c.toNat < 0x20 else hiddenChars.contains c

/-- A character as it is shown. -/
def encodeChar (c : Char) : Text :=
  if c = '\x00' then ['\\', '0']
  else if c = '\t' then ['\\', 't']
  else if c = '\n' then ['\\', 'n']
  else if c = '\r' then ['\\', 'r']
  else if c = '"' then ['\\', '"']
  else if c = '\\' then ['\\', '\\']
  else if isHidden c then '\\' :: 'u' :: '{' :: (Nat.toDigits 16 c.toNat ++ ['}'])
  else [c]

/-- A text between quotes. -/
def encode (t : Text) : Text := '"' :: (t.flatMap encodeChar ++ ['"'])

example : encode ['a', '"', '\n'] = ['"', 'a', '\\', '"', '\\', 'n', '"'] := by decide +kernel
example : encodeChar '\x1b' = ['\\', 'u', '{', '1', 'b', '}'] := by decide +kernel

end Emend.Quoted
