import Emend.Pattern.Parser
import Emend.Pattern.Room
import Emend.Pattern.Search
import Emend.Unicode.Case
import Emend.Unicode.Named
/-!
# The meaning of pattern expressions

An expression becomes a pattern under switches, which it may change on its way:
a change holds for what follows in the same group.

* With Unicode on, sets are sets of Unicode.  With it off they are sets of
  bytes, and only those that hold no byte of a longer character may be used.
* Where case does not count, a character stands for all with its case folding,
  and a set is closed under this before it is negated.

A pattern that takes too much room is refused; so is one that nests too deeply.
-/

namespace Emend.Pattern

/-- The switches in force. -/
structure Options where
  /-- Case does not count. -/
  ignoreCase : Bool := false
  /-- The ends of lines count as ends of the text. -/
  multiLine : Bool := false
  /-- A dot matches a line feed too. -/
  dotAll : Bool := false
  /-- Loops are lazy unless marked. -/
  swapGreed : Bool := false
  /-- Sets are those of Unicode. -/
  unicode : Bool := true
  /-- Carriage returns end lines. -/
  returns : Bool := false

namespace Options

/-- The switches with one of them set. -/
def set (o : Options) : Flag × Bool → Options
  | (.ignoreCase, on) => { o with ignoreCase := on }
  | (.multiLine, on) => { o with multiLine := on }
  | (.dotAll, on) => { o with dotAll := on }
  | (.swapGreed, on) => { o with swapGreed := on }
  | (.unicode, on) => { o with unicode := on }
  | (.returns, on) => { o with returns := on }
  | (.verbose, _) => o

/-- The switches with several of them set. -/
def setAll (o : Options) (switches : Switches) : Options := switches.foldl set o

end Options

/-! ## Sets -/

/-- A set of ASCII. -/
def asciiSet (ranges : List (Char × Char)) : CharSet :=
  CharSet.ofRanges (ranges.map fun (a, b) => ⟨a.toNat, b.toNat⟩)

namespace AsciiClass

/-- The characters of a named set of ASCII. -/
def chars : AsciiClass → CharSet
  | alnum => asciiSet [('0', '9'), ('A', 'Z'), ('a', 'z')]
  | alpha => asciiSet [('A', 'Z'), ('a', 'z')]
  | ascii => asciiSet [('\x00', '\x7F')]
  | blank => asciiSet [('\t', '\t'), (' ', ' ')]
  | cntrl => asciiSet [('\x00', '\x1F'), ('\x7F', '\x7F')]
  | digit => asciiSet [('0', '9')]
  | graph => asciiSet [('!', '~')]
  | lower => asciiSet [('a', 'z')]
  | print => asciiSet [(' ', '~')]
  | punct => asciiSet [('!', '/'), (':', '@'), ('[', '\x60'), ('\x7B', '~')]
  | space => asciiSet [('\t', '\r'), (' ', ' ')]
  | upper => asciiSet [('A', 'Z')]
  | word => asciiSet [('0', '9'), ('A', 'Z'), ('_', '_'), ('a', 'z')]
  | xdigit => asciiSet [('0', '9'), ('A', 'F'), ('a', 'f')]

end AsciiClass

/-- The characters of words. -/
def wordSet : CharSet := CharSet.wordChars

/-- The blanks. -/
def spaceSet : CharSet := UnicodeProperty.whiteSpace.chars

/-- The decimal digits. -/
def digitSet : CharSet := Category.nd.chars

namespace LetterClass

/-- The characters of a set written as a letter. -/
def chars (unicode : Bool) : LetterClass → CharSet
  | digit => if unicode then digitSet else AsciiClass.digit.chars
  | space => if unicode then spaceSet else AsciiClass.space.chars
  | word => if unicode then wordSet else AsciiClass.word.chars

end LetterClass

namespace Options

/-- The characters of ASCII letters in both cases, for a set of bytes. -/
def foldAscii (s : CharSet) : CharSet :=
  let letters := "abcdefghijklmnopqrstuvwxyz".toList.filter fun c =>
    s.contains c || s.contains c.toUpper
  s.union (CharSet.ofList (letters ++ letters.map Char.toUpper))

/-- The set closed under case folding if case does not count. -/
def fold (o : Options) (s : CharSet) : CharSet :=
  if o.ignoreCase then (if o.unicode then s.foldCase else foldAscii s) else s

/-- The complement of a set, among characters or among bytes. -/
def negate (o : Options) (s : CharSet) : CharSet :=
  if o.unicode then s.compl else s.compl.inter ⟨[⟨0, 0xFF⟩]⟩

/-- Whether a set holds ASCII only. -/
def isAscii (s : CharSet) : Bool := s.ranges.all fun r => r.last ≤ 0x7F

/-- The set itself, unless it holds bytes that are no characters. -/
def checked (o : Options) (s : CharSet) : Except PatternError CharSet :=
  if o.unicode || isAscii s then return s else throw .partialChar

/-- The set, folded, and negated if asked for. -/
def finish (o : Options) (negated : Bool) (s : CharSet) : CharSet :=
  let s := o.fold s
  if negated then o.negate s else s

/-- The characters of a named set of Unicode. -/
def unicodeSet (o : Options) (negated : Bool) (kind : UnicodeClass) :
    Except PatternError CharSet := do
  if !o.unicode then throw .needsUnicode
  let found := match kind with
    | .name name => Named.set? name
    | .value property value => Named.valueSet? property value
  match found with
  | some s => return o.finish negated s
  | none => throw .unknownName

/-- The characters of a set written as a letter. -/
def letterSet (o : Options) (negated : Bool) (kind : LetterClass) : Except PatternError CharSet :=
  let s := kind.chars o.unicode
  o.checked (if negated then o.negate s else s)

/-- A character as a member of brackets. -/
def memberChar (o : Options) (c : Char) : Except PatternError CharSet :=
  if o.unicode || c.toNat ≤ 0x7F then return CharSet.singleton c else throw .needsUnicode

/-- The characters that brackets stand for. -/
def classSet (o : Options) : ClassExpr → Except PatternError CharSet
  | .empty => return CharSet.empty
  | .char c => o.memberChar c
  | .range a b => do
    let _ ← o.memberChar a
    let _ ← o.memberChar b
    return ⟨[⟨a.toNat, b.toNat⟩]⟩
  | .ascii negated kind => o.checked (o.finish negated kind.chars)
  | .unicode negated kind => o.unicodeSet negated kind
  | .letter negated kind => o.letterSet negated kind
  | .nested negated inside => do o.checked (o.finish negated (← o.classSet inside))
  | .union a b => return (← o.classSet a).union (← o.classSet b)
  | .op kind a b => do
    let a := o.fold (← o.classSet a)
    let b := o.fold (← o.classSet b)
    match kind with
    | .inter => return a.inter b
    | .diff => return a.diff b
    | .symmDiff => return a.symmDiff b

/-- The characters that a dot stands for. -/
def dotSet (o : Options) : Except PatternError CharSet :=
  if !o.unicode then throw .partialChar
  else if o.dotAll then return CharSet.all
  else if o.returns then return (CharSet.ofList ['\n', '\r']).compl
  else return (CharSet.singleton '\n').compl

/-- The characters that a single character stands for. -/
def charSet (o : Options) (c : Char) (byte : Bool) : Except PatternError CharSet :=
  if o.unicode then return o.fold (CharSet.singleton c)
  else if byte && 0x7F < c.toNat then throw .partialChar
  else if c.toNat ≤ 0x7F then return o.fold (CharSet.singleton c)
  else return CharSet.singleton c

/-- The condition that a written one stands for. -/
def look (o : Options) (a : Assertion) : Look :=
  let word := LetterClass.word.chars o.unicode
  match a with
  | .caret =>
    if o.multiLine then (if o.returns then .returnLineStart else .lineStart) else .textStart
  | .dollar => if o.multiLine then (if o.returns then .returnLineEnd else .lineEnd) else .textEnd
  | .textStart => .textStart
  | .textEnd => .textEnd
  | .wordEdge => .wordEdge word
  | .noWordEdge => .noWordEdge word
  | .wordStart => .wordStart word
  | .wordEnd => .wordEnd word
  | .wordStartHalf => .noWordBefore word
  | .wordEndHalf => .noWordAfter word

end Options

/-! ## Levels -/

/-- The number of levels that expressions may nest. -/
def maxDepth : Nat := 250

/-- The number of levels of what stands in brackets.  Members side by side are
one level, however many; `amid` is set among them. -/
def ClassExpr.depth (amid : Bool) : ClassExpr → Nat
  | nested _ inside => inside.depth false + 1
  | union a b => max (a.depth true) (b.depth false) + (if amid then 0 else 1)
  | op _ a b => max (a.depth false) (b.depth false) + 1
  | _ => 0

/-- The number of levels of an expression.  A row is one level, and so are
alternatives, however many; `inRow` and `inAlt` are set within them. -/
def Expr.depth (inRow inAlt : Bool) : Expr → Nat
  | bracket _ inside => inside.depth false + 1
  | times _ _ _ e => e.depth false false + 1
  | group _ e => e.depth false false + 1
  | scope _ e => e.depth false false + 1
  | seq a b => max (a.depth false false) (b.depth true false) + (if inRow then 0 else 1)
  | alt a b => max (a.depth false false) (b.depth false true) + (if inAlt then 0 else 1)
  | _ => 0

/-! ## Patterns -/

/-- The alternatives that an expression means, and the switches for what
follows. -/
def Expr.compile (o : Options) : Expr → Except PatternError (List Form × Options)
  | empty => return ([.empty], o)
  | flags switches => return ([.empty], o.setAll switches)
  | char c byte => return ([.ofSet (← o.charSet c byte)], o)
  | dot => return ([.ofSet (← o.dotSet)], o)
  | assertion a => return ([.look (o.look a)], o)
  | unicode negated kind => return ([.ofSet (← o.unicodeSet negated kind)], o)
  | letter negated kind => return ([.ofSet (← o.letterSet negated kind)], o)
  | bracket negated inside =>
    return ([.ofSet (← o.checked (o.finish negated (← o.classSet inside)))], o)
  | times low high greedy e => do
    let (fs, _) ← e.compile o
    return ([.repeated low high (greedy != o.swapGreed) (.oneOf fs)], o)
  | group index e => do
    let (fs, _) ← e.compile o
    return ([.group index (.oneOf fs)], o)
  | scope switches e => do
    let (fs, _) ← e.compile (o.setAll switches)
    return ([.oneOf fs], o)
  | seq a b => do
    let (fs, o) ← a.compile o
    let (gs, o) ← b.compile o
    return ([(Form.oneOf fs).andThen (.oneOf gs)], o)
  | alt a b => do
    let (fs, o) ← a.compile o
    let (gs, o) ← b.compile o
    return (fs ++ gs, o)

/-- The form of the pattern that a text is. -/
def formOfText (caseSensitive : Bool) (t : Text) : Except PatternError Form := do
  let e ← Expr.ofText t
  if maxDepth < e.depth false false then throw .nesting
  let (fs, _) ← e.compile { ignoreCase := !caseSensitive }
  return .oneOf fs

/-- The pattern that a text is. -/
def ofText (caseSensitive : Bool) (t : Text) : Except PatternError Node := do
  let f ← formOfText caseSensitive t
  if f.fits then return f.toNode else throw .tooLarge

end Emend.Pattern
