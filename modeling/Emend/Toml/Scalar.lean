import Emend.Decimal.Reading
import Emend.Toml.Item
/-!
# Texts, numbers and dates in TOML

Each reader takes what it reads from the start of a text and gives back what is
left.
-/

namespace Emend.Toml

/-- A character that may stand in a comment or, quotes and backslashes apart, in
a quoted text. -/
def isPrintable (c : Char) : Bool := c == '\t' || (' ' ≤ c && c != '\x7F')

/-! ## Texts -/

/-- The value of so many hexadecimal digits, after digits of the given value. -/
def hexDigits? (value : Nat) : Nat → Text → Option (Nat × Text)
  | 0, t => some (value, t)
  | _ + 1, [] => none
  | n + 1, c :: t => do hexDigits? (16 * value + (← Text.hexDigit? c)) n t

/-- The character of so many hexadecimal digits. -/
def codePoint? (digits : Nat) (t : Text) : Option (Char × Text) := do
  let (n, rest) ← hexDigits? 0 digits t
  if n.isValidChar then some (Char.ofNat n, rest) else none

/-- The character for which an escape stands, after its backslash. -/
def escape? : Text → Option (Char × Text)
  | 'b' :: t => some ('\x08', t)
  | 't' :: t => some ('\t', t)
  | 'n' :: t => some ('\n', t)
  | 'f' :: t => some ('\x0C', t)
  | 'r' :: t => some ('\r', t)
  | 'e' :: t => some ('\x1B', t)
  | '"' :: t => some ('"', t)
  | '\\' :: t => some ('\\', t)
  | 'x' :: t => codePoint? 2 t
  | 'u' :: t => codePoint? 4 t
  | 'U' :: t => codePoint? 8 t
  | _ => none

/-- The rest of a text on one line, up to its quote; `fuel` bounds its length. -/
def lineText (quote : Char) : (fuel : Nat) → Text → Option (Text × Text)
  | 0, _ => none
  | _ + 1, [] => none
  | fuel + 1, c :: t =>
    if c = quote then some ([], t)
    else if c = '\\' ∧ quote = '"' then do
      let (c, t) ← escape? t
      let (more, t) ← lineText quote fuel t
      return (c :: more, t)
    else if isPrintable c then do
      let (more, t) ← lineText quote fuel t
      return (c :: more, t)
    else none

/-- What is left after spaces, tabs and line breaks. -/
def dropBreaks : Text → Text
  | '\r' :: '\n' :: t => dropBreaks t
  | '\n' :: t => dropBreaks t
  | ' ' :: t => dropBreaks t
  | '\t' :: t => dropBreaks t
  | t => t

/-- What is left after a line break that may have blanks before it. -/
def afterBreak? (t : Text) : Option Text :=
  match t.dropWhile fun c => c == ' ' || c == '\t' with
  | '\n' :: t => some t
  | '\r' :: '\n' :: t => some t
  | _ => none

/-- The rest of a text on several lines, up to its three quotes, before which
one or two more may stand; `fuel` bounds its length. -/
def blockText (quote : Char) : (fuel : Nat) → Text → Option (Text × Text)
  | 0, _ => none
  | _ + 1, [] => none
  | fuel + 1, c :: t =>
    let quotes := (c :: t).takeWhile (· == quote)
    if 3 ≤ quotes.length then
      if quotes.length ≤ 5 then some (quotes.drop 3, (c :: t).drop quotes.length) else none
    else if c = '\\' ∧ quote = '"' then
      match afterBreak? t with
      | some t => blockText quote fuel (dropBreaks t)
      | none => do
        let (c, t) ← escape? t
        let (more, t) ← blockText quote fuel t
        return (c :: more, t)
    else if c = '\n' ∨ isPrintable c ∨ (c = '\r' ∧ t.head? = some '\n') then do
      let (more, t) ← blockText quote fuel t
      return (c :: more, t)
    else none

/-- A quoted text that may go over several lines. -/
def quotedText? (t : Text) : Option (Text × Text) :=
  match t with
  | a :: b :: c :: t =>
    if (a = '"' ∨ a = '\'') ∧ b = a ∧ c = a then
      let t := match t with
        | '\n' :: t => t
        | '\r' :: '\n' :: t => t
        | t => t
      blockText a (t.length + 1) t
    else lineText a (t.length + 3) (b :: c :: t)
  | quote :: t => lineText quote (t.length + 1) t
  | [] => none

/-! ## Numbers -/

/-- Digits, with single underscores between them, without the underscores. -/
def digitRun? (isDigit : Char → Bool) (t : Text) : Option Text :=
  let pieces := Text.splitOn '_' t
  if pieces.all fun p => !p.isEmpty && p.all isDigit then some pieces.flatten else none

/-- The value of digits to a base. -/
def valueOf? (base : Nat) (t : Text) : Option Nat := do
  let run ← digitRun? (fun c => (Text.hexDigit? c).any (· < base)) t
  return run.foldl (fun n c => base * n + (Text.hexDigit? c).getD 0) 0

/-- The digits of a whole number without needless zeros. -/
def wholeRun? (t : Text) : Option Text := do
  let run ← digitRun? Char.isDigit t
  if run.head? = some '0' ∧ 1 < t.length then none else some run

/-- A whole number that fits in 64 bits. -/
def integer? (t : Text) : Option Int := do
  let n : Int ← match t with
    | '0' :: 'x' :: t => (valueOf? 16 t).map Int.ofNat
    | '0' :: 'o' :: t => (valueOf? 8 t).map Int.ofNat
    | '0' :: 'b' :: t => (valueOf? 2 t).map Int.ofNat
    | t => do
      let (negative, t) := Decimal.splitSign t
      let n ← Text.digits? (← wholeRun? t)
      pure (if negative then -(n : Int) else n)
  if -0x8000000000000000 ≤ n ∧ n ≤ 0x7FFFFFFFFFFFFFFF then some n else none

/-- A finite double in digits: a whole part, and a fraction or an exponent or
both. -/
def finite? (t : Text) : Option Float := do
  let (negative, t) := Decimal.splitSign t
  let isMark (c : Char) := c == 'e' || c == 'E'
  let mantissa := Text.before isMark t
  let exponent := t.drop mantissa.length
  let whole ← wholeRun? (Text.before (· == '.') mantissa)
  let places ← match mantissa.dropWhile (· != '.') with
    | [] => some []
    | _ :: places => ('.' :: ·) <$> digitRun? Char.isDigit places
  let power ← match exponent with
    | [] => some []
    | _ :: power => do
      let (negative, power) := Decimal.splitSign power
      let run ← digitRun? Char.isDigit power
      pure ('e' :: (if negative then '-' :: run else run))
  if places.isEmpty && power.isEmpty then none
  else
    let x ← Decimal.float? (whole ++ places ++ power)
    if x == Decimal.infinity then none else some (Decimal.signed negative x)

/-- A number, a yes or a no, or a date or a time. -/
def bareItem? (t : Text) : Option Item :=
  let (negative, word) := Decimal.splitSign t
  if t = "true".toList then some (.boolean true)
  else if t = "false".toList then some (.boolean false)
  else if word = "inf".toList then some (.float (Decimal.signed negative Decimal.infinity))
  else if word = "nan".toList then some (.float (Decimal.signed negative Decimal.notANumber))
  else match integer? t with
    | some n => some (.integer n)
    | none => (.float <$> finite? t).or (.dateTime <$> dateTime? t)

example : integer? "0xDEAD_beef".toList = some 0xDEADBEEF := by decide
example : integer? "01".toList = none := by decide
example : integer? "1__0".toList = none := by decide
example : quotedText? "\"a\\u0062\" c".toList = some (['a', 'b'], [' ', 'c']) := by decide
example : quotedText? "'''\na''b''''x".toList = some (['a', '\'', '\'', 'b', '\''], ['x']) := by
  decide

end Emend.Toml
