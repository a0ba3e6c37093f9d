import Emend.Text.Basic
/-!
# Pattern expressions

What a written pattern says, before its flags are applied.  `Expr` is the whole
expression and `ClassExpr` what stands between brackets.
-/

namespace Emend.Pattern

/-- Why a written pattern is none. -/
inductive PatternError where
  /-- It does not follow the grammar. -/
  | malformed
  /-- It is nested too deeply. -/
  | nesting
  /-- It names a set of characters that there is not. -/
  | unknownName
  /-- Without Unicode it could match a part of a character. -/
  | partialChar
  /-- It asks for a set of Unicode where Unicode is off. -/
  | needsUnicode
  /-- It would take too much room. -/
  | tooLarge
  deriving DecidableEq, Repr

/-- What is said about a pattern that is none.  The engine has words of its own for each
of them, in which it shows the pattern; `<regex>` stands for these. -/
def PatternError.message (_ : PatternError) : String := "<regex>"

/-- A switch of the notation. -/
inductive Flag where
  /-- `i`: case does not count. -/
  | ignoreCase
  /-- `m`: the ends of lines count as ends of the text. -/
  | multiLine
  /-- `s`: a dot matches a line feed too. -/
  | dotAll
  /-- `U`: a loop is lazy unless marked, and greedy if marked. -/
  | swapGreed
  /-- `u`: sets are those of Unicode. -/
  | unicode
  /-- `R`: carriage returns end lines. -/
  | returns
  /-- `x`: blanks and comments in the pattern mean nothing. -/
  | verbose
  deriving DecidableEq, Repr

/-- The switches that are set to a new value. -/
abbrev Switches := List (Flag × Bool)

/-- The sets written as a letter. -/
inductive LetterClass where
  /-- `\d` -/
  | digit
  /-- `\s` -/
  | space
  /-- `\w` -/
  | word
  deriving DecidableEq, Repr

/-- The sets with a name in ASCII. -/
inductive AsciiClass where
  | alnum | alpha | ascii | blank | cntrl | digit | graph | lower | print | punct | space
  | upper | word | xdigit
  deriving DecidableEq, Repr

/-- A condition as it is written. -/
inductive Assertion where
  /-- `^` -/
  | caret
  /-- `$` -/
  | dollar
  /-- `\A` -/
  | textStart
  /-- `\z` -/
  | textEnd
  /-- `\b` -/
  | wordEdge
  /-- `\B` -/
  | noWordEdge
  /-- `\<` or `\b{start}` -/
  | wordStart
  /-- `\>` or `\b{end}` -/
  | wordEnd
  /-- `\b{start-half}` -/
  | wordStartHalf
  /-- `\b{end-half}` -/
  | wordEndHalf
  deriving DecidableEq, Repr

/-- How sets between brackets are combined. -/
inductive ClassOp where
  /-- `&&` -/
  | inter
  /-- `--` -/
  | diff
  /-- `~~` -/
  | symmDiff
  deriving DecidableEq, Repr

/-- A named set of Unicode. -/
inductive UnicodeClass where
  /-- A name alone. -/
  | name (name : Text)
  /-- A property and a value. -/
  | value (property value : Text)
  deriving DecidableEq, Repr

/-- What stands between brackets. -/
inductive ClassExpr where
  /-- Nothing. -/
  | empty
  /-- A character. -/
  | char (c : Char)
  /-- The characters between two. -/
  | range (first last : Char)
  /-- `[:name:]` -/
  | ascii (negated : Bool) (kind : AsciiClass)
  /-- `\p{name}` -/
  | unicode (negated : Bool) (kind : UnicodeClass)
  /-- `\d` and the like. -/
  | letter (negated : Bool) (kind : LetterClass)
  /-- Brackets in brackets. -/
  | nested (negated : Bool) (inside : ClassExpr)
  /-- Both of two. -/
  | union (first second : ClassExpr)
  /-- Two combined by an operator. -/
  | op (op : ClassOp) (first second : ClassExpr)
  deriving Repr

/-- A pattern expression. -/
inductive Expr where
  /-- Nothing. -/
  | empty
  /-- A change of switches for what follows in the group. -/
  | flags (switches : Switches)
  /-- A character; `byte` when it is written as the two digits of a byte. -/
  | char (c : Char) (byte : Bool)
  /-- `.` -/
  | dot
  /-- A condition. -/
  | assertion (a : Assertion)
  /-- `\p{name}` -/
  | unicode (negated : Bool) (kind : UnicodeClass)
  /-- `\d` and the like. -/
  | letter (negated : Bool) (kind : LetterClass)
  /-- A set in brackets. -/
  | bracket (negated : Bool) (inside : ClassExpr)
  /-- A number of times: at least `low`, and at most `high` if that is given. -/
  | times (low : Nat) (high : Option Nat) (greedy : Bool) (e : Expr)
  /-- A group with a number. -/
  | group (index : Nat) (e : Expr)
  /-- A group without one, in which some switches are changed. -/
  | scope (switches : Switches) (e : Expr)
  /-- Two in a row. -/
  | seq (first second : Expr)
  /-- Either of two. -/
  | alt (first second : Expr)
  deriving Repr

end Emend.Pattern
