import Emend.Pattern.Syntax
import Emend.Text.Blank
import Emend.Text.Number
import Emend.Unicode.Recent
/-!
# Reading patterns

A written pattern is read from left to right.  The reader keeps what is left of
the text, whether blanks and comments mean nothing, and the groups met so far.

Expressions nest, in groups and in brackets, and are read by functions that
call each other.  Each of their calls either takes a character or is followed
by one that does, so a budget of a few calls for each character is never used
up; `Expr.ofText?` provides it.
-/

namespace Emend.Pattern

/-- The state of the reader. -/
structure Cursor where
  /-- What is left of the pattern. -/
  rest : Text
  /-- Whether blanks and comments mean nothing. -/
  verbose : Bool := false
  /-- The number of groups met. -/
  groups : Nat := 0
  /-- The names of groups met. -/
  names : List Text := []

/-- An action of the reader. -/
abbrev Reading (α : Type) := StateT Cursor (Except PatternError) α

namespace Reading

/-- The pattern does not follow the grammar. -/
def malformed {α : Type} : Reading α := throw .malformed

/-- The next character. -/
def peek? : Reading (Option Char) := do return (← get).rest.head?

/-- Whether the pattern has been read to its end. -/
def atEnd : Reading Bool := do return (← get).rest.isEmpty

/-- Passes over the next character. -/
def bump : Reading Unit := modify fun s => { s with rest := s.rest.tail }

/-- A text without the blanks and comments that lead it. -/
def skipBlanks (inComment : Bool) : Text → Text
  | [] => []
  | c :: t =>
    if inComment then skipBlanks (c != '\n') t
    else if isBlank c then skipBlanks false t
    else if c = '#' then skipBlanks true t
    else c :: t

/-- Passes over blanks and comments where they mean nothing. -/
def bumpBlanks : Reading Unit :=
  modify fun s => if s.verbose then { s with rest := skipBlanks false s.rest } else s

/-- Passes over a character and what means nothing after it; something has to
follow. -/
def advance : Reading Unit := do
  bump
  bumpBlanks
  if ← atEnd then malformed

/-- Passes over a backslash; something has to follow. -/
def bumpBackslash : Reading Unit := do
  bump
  if ← atEnd then malformed

/-- The next character, which there has to be. -/
def next : Reading Char := do
  match ← peek? with
  | some c => return c
  | none => malformed

/-- Passes over a given text if it comes next. -/
def bumpIf (lead : String) : Reading Bool := do
  match Text.afterLead? lead.toList (← get).rest with
  | some rest =>
    modify fun s => { s with rest }
    return true
  | none => return false

/-- Whether a given text comes next. -/
def comes (lead : String) : Reading Bool := do return Text.startsWith lead.toList (← get).rest

/-! ## Numbers -/

/-- The character of a code point, if it is one. -/
def charOf (n : Nat) : Reading Char :=
  if n.isValidChar then return Char.ofNat n else malformed

/-- Reads a given number of hexadecimal digits. -/
def fixedHex (value : Nat) : Nat → Reading Nat
  | 0 => return value
  | k + 1 => do
    match Text.hexDigit? (← next) with
    | none => malformed
    | some d =>
      if k = 0 then
        bump
        bumpBlanks
      else advance
      fixedHex (16 * value + d) k

/-- Reads hexadecimal digits up to a closing brace; `some` digit has to have
been read. -/
def bracedHex (value : Option Nat) : Nat → Reading Nat
  | 0 => malformed
  | fuel + 1 => do
    let c ← next
    if c = '}' then
      bump
      bumpBlanks
      match value with
      | some n => return n
      | none => malformed
    else
      match Text.hexDigit? c with
      | none => malformed
      | some d =>
        advance
        bracedHex (some (16 * value.getD 0 + d)) fuel

/-- Passes over blanks, whether they mean anything or not. -/
def bumpSpaces : Reading Unit := modify fun s => { s with rest := s.rest.dropWhile isBlank }

/-- Reads decimal digits. -/
def decimalDigits (value : Option Nat) : Nat → Reading (Option Nat)
  | 0 => return value
  | fuel + 1 => do
    match ← peek? with
    | none => return value
    | some c =>
      if '0' ≤ c ∧ c ≤ '9' then
        bump
        bumpBlanks
        decimalDigits (some (10 * value.getD 0 + (c.toNat - '0'.toNat))) fuel
      else return value

/-- Reads a decimal number that fits in 32 bits, with blanks around it. -/
def decimal : Reading Nat := do
  bumpSpaces
  let value ← decimalDigits none (← get).rest.length
  bumpSpaces
  bumpBlanks
  match value with
  | some n => if n ≤ 0xFFFFFFFF then return n else malformed
  | none => malformed

/-! ## Characters and sets -/

/-- The characters with a meaning of their own somewhere in a pattern. -/
def isMeta (c : Char) : Bool := "\\.+*?()|[]{}^$#&-~".toList.contains c

/-- Whether a backslash before the character just gives the character. -/
def isEscapable (c : Char) : Bool :=
  isMeta c || (c.toNat < 0x80 && !c.isAlphanum && c != '<' && c != '>')

/-- The part of a text before the first character that is `stop`, and the rest
from there on. -/
def splitAtChar (stop : Char) (t : Text) : Text × Text :=
  (t.takeWhile (· != stop), t.dropWhile (· != stop))

/-- The set that a name in braces stands for. -/
def unicodeClassOf (negated : Bool) (name : Text) : Bool × UnicodeClass :=
  match Text.breakOn? ['!', '='] name with
  | some (property, value) => (!negated, .value property value)
  | none =>
    match Text.breakOn? [':'] name with
    | some (property, value) => (negated, .value property value)
    | none =>
      match Text.breakOn? ['='] name with
      | some (property, value) => (negated, .value property value)
      | none => (negated, .name name)

/-- Reads a name up to a closing brace. -/
def bracedName (name : Text) : Nat → Reading Text
  | 0 => malformed
  | fuel + 1 => do
    let c ← next
    if c = '}' then
      bump
      return name
    else
      advance
      bracedName (name ++ [c]) fuel

/-- Reads a named set after its backslash. -/
def unicodeClass : Reading (Bool × UnicodeClass) := do
  let negated := (← next) == 'P'
  advance
  let c ← next
  if c = '{' then
    advance
    let name ← bracedName [] (← get).rest.length
    return unicodeClassOf negated name
  else if c = '\\' then malformed
  else
    bump
    bumpBlanks
    return (negated, .name [c])

/-- Reads a character given by its number, after the backslash. -/
def numbered : Reading Expr := do
  let kind ← next
  advance
  if (← next) = '{' then
    advance
    let n ← bracedHex none ((← get).rest.length + 1)
    return .char (← charOf n) false
  else
    let digits := if kind = 'x' then 2 else if kind = 'u' then 4 else 8
    let n ← fixedHex 0 digits
    return .char (← charOf n) (kind = 'x')

/-- The condition of a name in braces after `\b`. -/
def wordAssertion? (name : String) : Option Assertion :=
  match name with
  | "start" => some .wordStart
  | "end" => some .wordEnd
  | "start-half" => some .wordStartHalf
  | "end-half" => some .wordEndHalf
  | _ => none

/-- The letters and hyphens at the start of a text, with what follows the blanks
between them where these mean nothing. -/
def wordName (verbose : Bool) : Nat → Text → Text × Text
  | 0, t => ([], t)
  | fuel + 1, t =>
    match t with
    | [] => ([], [])
    | c :: r =>
      if c.isAlpha || c = '-' then
        let (name, rest) := wordName verbose fuel (if verbose then skipBlanks false r else r)
        (c :: name, rest)
      else ([], c :: r)

/-- Reads what may stand in braces after `\b`.  Braces that do not start with a
name are left for a number of times. -/
def wordEdge : Reading Assertion := do
  if !(← comes "\x7b") then return .wordEdge
  let start ← get
  advance
  let s ← get
  let (name, rest) := wordName s.verbose s.rest.length s.rest
  if name.isEmpty then
    set start
    return .wordEdge
  match rest, wordAssertion? (String.ofList name) with
  | '}' :: rest, some a =>
    set { s with rest }
    return a
  | _, _ => malformed

/-- Reads what follows a backslash. -/
def escape : Reading Expr := do
  let c ← next
  if '0' ≤ c ∧ c ≤ '9' then malformed
  else if c = 'x' ∨ c = 'u' ∨ c = 'U' then numbered
  else if c = 'p' ∨ c = 'P' then
    let (negated, kind) ← unicodeClass
    return .unicode negated kind
  else
    bump
    match c with
    | 'd' => return .letter false .digit
    | 'D' => return .letter true .digit
    | 's' => return .letter false .space
    | 'S' => return .letter true .space
    | 'w' => return .letter false .word
    | 'W' => return .letter true .word
    | 'a' => return .char '\x07' false
    | 'f' => return .char '\x0C' false
    | 't' => return .char '\t' false
    | 'n' => return .char '\n' false
    | 'r' => return .char '\r' false
    | 'v' => return .char '\x0B' false
    | 'A' => return .assertion .textStart
    | 'z' => return .assertion .textEnd
    | 'b' => return .assertion (← wordEdge)
    | 'B' => return .assertion .noWordEdge
    | '<' => return .assertion .wordStart
    | '>' => return .assertion .wordEnd
    | _ => if isEscapable c then return .char c false else malformed

/-! ## Brackets -/

/-- The set of a name between `[:` and `:]`. -/
def asciiClass? (name : String) : Option AsciiClass :=
  match name with
  | "alnum" => some .alnum
  | "alpha" => some .alpha
  | "ascii" => some .ascii
  | "blank" => some .blank
  | "cntrl" => some .cntrl
  | "digit" => some .digit
  | "graph" => some .graph
  | "lower" => some .lower
  | "print" => some .print
  | "punct" => some .punct
  | "space" => some .space
  | "upper" => some .upper
  | "word" => some .word
  | "xdigit" => some .xdigit
  | _ => none

/-- A named set of ASCII at the start of a text, and what follows it. -/
def asciiClassAt? (t : Text) : Option (ClassExpr × Text) := do
  let t ← Text.afterLead? ['[', ':'] t
  let (negated, t) := match t with
    | '^' :: r => (true, r)
    | _ => (false, t)
  let (name, t) := splitAtChar ':' t
  let t ← Text.afterLead? [':', ']'] t
  let kind ← asciiClass? (String.ofList name)
  return (.ascii negated kind, t)

/-- Reads one character or set in brackets. -/
def classItem : Reading Expr := do
  let c ← next
  if c = '\\' then
    bumpBackslash
    escape
  else
    bump
    return .char c false

/-- What was read as a member of brackets. -/
def toClassExpr : Expr → Reading ClassExpr
  | .char c _ => return .char c
  | .unicode negated kind => return .unicode negated kind
  | .letter negated kind => return .letter negated kind
  | _ => malformed

/-- What was read as an end of a range. -/
def toRangeEnd : Expr → Reading Char
  | .char c _ => return c
  | _ => malformed

/-- The first character after blanks, of which one may be followed by the mark of
a comment; what the comment says is not passed over. -/
def pastBlanks (t : Text) : Option Char :=
  match t.dropWhile isBlank with
  | '#' :: r => ((r.dropWhile isBlank).head?).or t.head?
  | r => r.head?.or t.head?

/-- The character after the next one, past what means nothing between them. -/
def peekPast : Reading (Option Char) := do
  let s ← get
  return if s.verbose then pastBlanks s.rest.tail else s.rest.tail.head?

/-- Reads a member of brackets: a character, a range or a named set. -/
def classRange : Reading ClassExpr := do
  let first ← classItem
  bumpBlanks
  let c ← next
  let past ← peekPast
  if c ≠ '-' ∨ past = some ']' ∨ past = some '-' then toClassExpr first
  else
    advance
    let last ← classItem
    let a ← toRangeEnd first
    let b ← toRangeEnd last
    if a ≤ b then return .range a b else malformed

/-- Both of two members. -/
def both (a b : ClassExpr) : ClassExpr :=
  match a with
  | .empty => b
  | _ => .union a b

/-- What an operator makes of what stands before it and what has come since. -/
def closeOp (pending : Option (ClassOp × ClassExpr)) (since : ClassExpr) : ClassExpr :=
  match pending with
  | none => since
  | some (op, first) => .op op first since

/-- Reads hyphens at the start of brackets as members. -/
def leadingHyphens (inside : ClassExpr) : Nat → Reading ClassExpr
  | 0 => return inside
  | fuel + 1 => do
    if (← next) = '-' then
      advance
      leadingHyphens (both inside (.char '-')) fuel
    else return inside

/-- Reads the opening bracket and what has a meaning of its own after it:
whether the set is negated, and its first members. -/
def openBracket : Reading (Bool × ClassExpr) := do
  advance
  let negated := (← next) == '^'
  if negated then advance
  let inside ← leadingHyphens .empty (← get).rest.length
  match inside, ← next with
  | .empty, ']' =>
    advance
    return (negated, .char ']')
  | _, _ => return (negated, inside)

/-- The operator that comes next. -/
def classOp? : Reading (Option ClassOp) := do
  if ← bumpIf "&&" then return some .inter
  else if ← bumpIf "--" then return some .diff
  else if ← bumpIf "~~" then return some .symmDiff
  else return none

/-- Reads what stands in brackets up to the closing one. -/
def bracketBody (pending : Option (ClassOp × ClassExpr)) (inside : ClassExpr) :
    Nat → Reading ClassExpr
  | 0 => malformed
  | fuel + 1 => do
    bumpBlanks
    match ← next with
    | ']' =>
      bump
      return closeOp pending inside
    | '[' =>
      match asciiClassAt? (← get).rest with
      | some (e, rest) =>
        modify fun s => { s with rest }
        bracketBody pending (both inside e) fuel
      | none =>
        let (negated, first) ← openBracket
        let nested ← bracketBody none first fuel
        bracketBody pending (both inside (.nested negated nested)) fuel
    | _ =>
      match ← classOp? with
      | some op => bracketBody (some (op, closeOp pending inside)) .empty fuel
      | none =>
        let e ← classRange
        bracketBody pending (both inside e) fuel

/-- Reads a set in brackets. -/
def bracket : Reading Expr := do
  let (negated, first) ← openBracket
  let inside ← bracketBody none first ((← get).rest.length + 1)
  return .bracket negated inside

/-! ## Groups -/

/-- The switch of a letter. -/
def flag? (c : Char) : Option Flag :=
  match c with
  | 'i' => some .ignoreCase
  | 'm' => some .multiLine
  | 's' => some .dotAll
  | 'U' => some .swapGreed
  | 'u' => some .unicode
  | 'R' => some .returns
  | 'x' => some .verbose
  | _ => none

/-- Reads switches up to a colon or a closing parenthesis.  `off` is set after
a hyphen, and `dangling` right after it. -/
def switches (read : Switches) (off dangling : Bool) : Nat → Reading Switches
  | 0 => malformed
  | fuel + 1 => do
    let c ← next
    if c = ':' ∨ c = ')' then
      if dangling then malformed else return read
    else if c = '-' then
      if off then malformed
      bump
      switches read true true fuel
    else
      match flag? c with
      | none => malformed
      | some f =>
        if read.any fun (g, _) => g == f then malformed
        bump
        switches (read ++ [(f, !off)]) off false fuel

/-- The characters that may start the name of a group. -/
def startsName (c : Char) : Bool := c == '_' || Recent.alphabetic.contains c

/-- The characters that may follow in the name of a group. -/
def continuesName (c : Char) : Bool :=
  startsName c || c == '.' || c == '[' || c == ']' || Recent.numeric.contains c

/-- Reads the name of a group up to the closing angle. -/
def groupName : Reading Unit := do
  let s ← get
  match splitAtChar '>' s.rest with
  | (c :: cs, _ :: rest) =>
    if startsName c && cs.all continuesName && !s.names.contains (c :: cs) then
      set { s with rest, names := (c :: cs) :: s.names }
    else malformed
  | _ => malformed

/-- The next group's number. -/
def newGroup : Reading Nat := do
  let n := (← get).groups + 1
  modify fun s => { s with groups := n }
  return n

/-- How a group starts. -/
inductive GroupStart where
  /-- A change of switches, which is no group. -/
  | flags (switches : Switches)
  /-- A group with a number. -/
  | numbered (index : Nat)
  /-- A group without one. -/
  | scope (switches : Switches)

/-- Reads the start of a group from its parenthesis on. -/
def groupStart : Reading GroupStart := do
  bump
  bumpBlanks
  if (← comes "?=") || (← comes "?!") || (← comes "?<=") || (← comes "?<!") then malformed
  let named ← if ← bumpIf "?P<" then pure true else bumpIf "?<"
  if named then
    let index ← newGroup
    groupName
    return .numbered index
  else if ← bumpIf "?" then
    let read ← switches [] false false ((← get).rest.length + 1)
    let c ← next
    bump
    if c = ')' then
      if read.isEmpty then malformed else return .flags read
    else return .scope read
  else return .numbered (← newGroup)

/-- Blanks and comments mean nothing from here on, if the switches say so. -/
def setVerbose (switches : Switches) : Reading Unit :=
  match switches.find? fun (f, _) => f == .verbose with
  | some (_, verbose) => modify fun s => { s with verbose }
  | none => return ()

/-! ## Expressions -/

/-- Whether a number of times can apply to an expression. -/
def repeatable : Expr → Bool
  | .empty | .flags _ => false
  | _ => true

/-- The last of the expressions read, which a number of times applies to, and
those before it. -/
def lastRead : List Expr → Reading (Expr × List Expr)
  | e :: es => if repeatable e then return (e, es) else malformed
  | [] => malformed

/-- Whether a question mark follows; it is passed over. -/
def lazyMark : Reading Bool := do
  if (← peek?) == some '?' then
    bump
    return true
  else return false

/-- Reads numbers in braces. -/
def counts : Reading (Nat × Option Nat) := do
  advance
  let low ← decimal
  let high ← if (← next) = ',' then
      advance
      if (← next) = '}' then pure none else (do return some (← decimal))
    else pure (some low)
  if (← next) ≠ '}' then malformed
  bump
  bumpBlanks
  return (low, high)

/-- Reads a number of times in braces, for the expression `e`. -/
def countedTimes (e : Expr) : Reading Expr := do
  let (low, high) ← counts
  let isLazy ← lazyMark
  match high with
  | some n => if n < low then malformed
  | none => pure ()
  return .times low high (!isLazy) e

/-- Reads a mark of repetition, for the expression `e`. -/
def markedTimes (mark : Char) (e : Expr) : Reading Expr := do
  bump
  let isLazy ← lazyMark
  match mark with
  | '?' => return .times 0 (some 1) (!isLazy) e
  | '*' => return .times 0 none (!isLazy) e
  | _ => return .times 1 none (!isLazy) e

/-- Reads a single character, set or condition. -/
def primitive : Reading Expr := do
  let c ← next
  match c with
  | '\\' =>
    bumpBackslash
    escape
  | '.' => bump; return .dot
  | '^' => bump; return .assertion .caret
  | '$' => bump; return .assertion .dollar
  | _ => bump; return .char c false

/-- The expressions in a row. -/
def inRow : List Expr → Expr
  | [] => .empty
  | [e] => e
  | e :: es => .seq e (inRow es)

mutual

/-- Reads alternatives up to a closing parenthesis or the end. -/
def alternatives : Nat → Reading Expr
  | 0 => malformed
  | fuel + 1 => do
    let first ← row [] fuel
    if (← peek?) == some '|' then
      bump
      return .alt first (← alternatives fuel)
    else return first

/-- Reads expressions in a row; `read` are those read so far, the last one
first. -/
def row (read : List Expr) : Nat → Reading Expr
  | 0 => malformed
  | fuel + 1 => do
    bumpBlanks
    match ← peek? with
    | none => return inRow read.reverse
    | some '|' => return inRow read.reverse
    | some ')' => return inRow read.reverse
    | some '(' =>
      let outer := (← get).verbose
      match ← groupStart with
      | .flags s =>
        setVerbose s
        row (.flags s :: read) fuel
      | .numbered index =>
        let e ← group outer fuel
        row (.group index e :: read) fuel
      | .scope s =>
        setVerbose s
        let e ← group outer fuel
        row (.scope s e :: read) fuel
    | some '[' =>
      let e ← bracket
      row (e :: read) fuel
    | some '{' =>
      let (e, earlier) ← lastRead read
      let e ← countedTimes e
      row (e :: earlier) fuel
    | some '?' | some '*' | some '+' =>
      let mark ← next
      let (e, earlier) ← lastRead read
      let e ← markedTimes mark e
      row (e :: earlier) fuel
    | some _ =>
      let e ← primitive
      row (e :: read) fuel

/-- Reads the inside of a group and its closing parenthesis.  After it, blanks
mean what they meant before the group. -/
def group (outer : Bool) : Nat → Reading Expr
  | 0 => malformed
  | fuel + 1 => do
    let e ← alternatives fuel
    if (← peek?) ≠ some ')' then malformed
    modify fun s => { s with verbose := outer, rest := s.rest.tail }
    return e

end

end Reading

/-- The expression that a text is, if it is one. -/
def Expr.ofText (t : Text) : Except PatternError Expr := do
  let (e, s) ← (Reading.alternatives (3 * t.length + 3)).run { rest := t }
  if s.rest.isEmpty then return e else throw .malformed

end Emend.Pattern
