import Emend.Text.Line
import Emend.Unicode.Property
/-!
# Patterns

A pattern describes the texts that match it and, because it prefers some ways
of matching to others, also which match is taken.

* Of two alternatives the first is preferred.
* A greedy loop prefers another round to leaving, a lazy one the opposite.
* A condition holds or fails at a place between two characters and takes
  nothing.
* A mark notes the place where it is passed; a group is a pattern between two
  marks.

Loops come in two kinds, because a round that takes nothing may not be
followed by another.  `loop` is a loop whose rounds all take something;
`rounds` is at least one round, of which the first may take nothing.

Every point of a pattern where a character is taken, or where there are two
ways to go on, has a number of its own.  What is still to be matched from there
on depends on this point only.
-/

namespace Emend.Pattern

/-- A condition on a place. -/
inductive Look where
  /-- At the start of the text. -/
  | textStart
  /-- At the end of the text. -/
  | textEnd
  /-- At the start of a line. -/
  | lineStart
  /-- At the end of a line. -/
  | lineEnd
  /-- At the start of a line, where a carriage return ends a line too. -/
  | returnLineStart
  /-- At the end of a line, where a carriage return ends a line too. -/
  | returnLineEnd
  /-- Between a character of a word and one that is none. -/
  | wordEdge (word : CharSet)
  /-- Not between a character of a word and one that is none. -/
  | noWordEdge (word : CharSet)
  /-- Before the first character of a word. -/
  | wordStart (word : CharSet)
  /-- After the last character of a word. -/
  | wordEnd (word : CharSet)
  /-- Not after a character of a word. -/
  | noWordBefore (word : CharSet)
  /-- Not before a character of a word. -/
  | noWordAfter (word : CharSet)
  deriving DecidableEq, Repr

/-- A pattern. -/
inductive Node where
  /-- Matches nothing but the empty text. -/
  | empty
  /-- Matches one character of the set. -/
  | one (number : Nat) (set : CharSet)
  /-- Matches the empty text where the condition holds. -/
  | look (cond : Look)
  /-- Matches the empty text and notes the place. -/
  | mark (slot : Nat)
  /-- The first pattern, then the second. -/
  | seq (first second : Node)
  /-- One of the patterns, the first by preference. -/
  | alt (number : Nat) (first second : Node)
  /-- Any number of rounds, each of which takes something. -/
  | loop (number : Nat) (greedy : Bool) (round : Node)
  /-- One round, which may take nothing, and then any number of them. -/
  | rounds (number : Nat) (greedy : Bool) (round : Node)
  deriving DecidableEq, Repr

/-- A place between two characters of a text. -/
structure Place where
  /-- The character before it. -/
  before : Option Char
  /-- The character after it. -/
  after : Option Char
  /-- The number of bytes before it. -/
  offset : Nat

namespace Look

/-- Whether a neighbour of a place is a character of a word. -/
def inWord (word : CharSet) (c : Option Char) : Bool := c.any word.contains

/-- Whether a condition holds at a place. -/
def holds (p : Place) : Look → Bool
  | textStart => p.before.isNone
  | textEnd => p.after.isNone
  | lineStart => p.before.isNone || p.before == some '\n'
  | lineEnd => p.after.isNone || p.after == some '\n'
  | returnLineStart =>
    p.before.isNone || p.before == some '\n' || (p.before == some '\r' && p.after != some '\n')
  | returnLineEnd =>
    p.after.isNone || p.after == some '\r' || (p.after == some '\n' && p.before != some '\r')
  | wordEdge word => inWord word p.before != inWord word p.after
  | noWordEdge word => inWord word p.before == inWord word p.after
  | wordStart word => !inWord word p.before && inWord word p.after
  | wordEnd word => inWord word p.before && !inWord word p.after
  | noWordBefore word => !inWord word p.before
  | noWordAfter word => !inWord word p.after

end Look

namespace Node

/-- A pattern whose place is noted as the group of the given number. -/
def group (index : Nat) (n : Node) : Node :=
  seq (mark (2 * index)) (seq n (mark (2 * index + 1)))

/-- Whether the pattern can match without taking a character. -/
def mayBeEmpty : Node → Bool
  | empty | look _ | mark _ | loop _ _ _ => true
  | one _ _ => false
  | seq a b => a.mayBeEmpty && b.mayBeEmpty
  | alt _ a b => a.mayBeEmpty || b.mayBeEmpty
  | rounds _ _ r => r.mayBeEmpty

/-- The pattern or nothing. -/
def opt (number : Nat) (greedy : Bool) (n : Node) : Node :=
  if greedy then alt number n empty else alt number empty n

/-- Any number of times.  The two numbers are for this loop. -/
def star (number other : Nat) (greedy : Bool) (n : Node) : Node :=
  if n.mayBeEmpty then opt number greedy (rounds other greedy n) else loop number greedy n

end Node

end Emend.Pattern
