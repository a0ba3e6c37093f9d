import Emend.Pattern.Node
/-!
# Forms of patterns

A form is a pattern in which counts are still numbers, characters in a row are
one text, and alternatives are as few as can be.

* Rows and alternatives are flat: the first part of a row is no row, and the
  first of several alternatives is not itself several.
* A set of one character is a text.
* Alternatives that are single characters, or sets, are one set.
* The parts with which all alternatives begin stand before them.

`andThen`, `oneOf` and `repeated` keep this.  `toNode` is the pattern that a
form stands for; what is to be done several times stands in it as often, since
each point of a pattern has its own number.
-/

namespace Emend.Pattern

/-- A form of a pattern. -/
inductive Form where
  /-- The empty text. -/
  | empty
  /-- A text that is not empty. -/
  | text (t : Text)
  /-- One character of a set, which does not hold exactly one. -/
  | set (s : CharSet)
  /-- The empty text where a condition holds. -/
  | look (cond : Look)
  /-- At least `low` times, and at most `high` times if that is given. -/
  | times (low : Nat) (high : Option Nat) (greedy : Bool) (f : Form)
  /-- A group whose place is noted. -/
  | group (index : Nat) (f : Form)
  /-- Two in a row. -/
  | seq (first second : Form)
  /-- Either of two. -/
  | alt (first second : Form)
  deriving DecidableEq, Repr

namespace Form

/-! ## Views -/

/-- The parts of a row. -/
def parts : Form → List Form
  | seq a b => a :: b.parts
  | f => [f]

/-- The alternatives of a form. -/
def branches : Form → List Form
  | alt a b => a :: b.branches
  | f => [f]

/-- How many forms a form is made of. -/
def size : Form → Nat
  | times _ _ _ f | group _ f => f.size + 1
  | seq a b | alt a b => a.size + b.size + 1
  | _ => 1

/-- Whether a form is a row. -/
def isRow : Form → Bool
  | seq _ _ => true
  | _ => false

/-- The text that a form is. -/
def text? : Form → Option Text
  | text t => some t
  | _ => none

/-- The character that a form is. -/
def char? : Form → Option Char
  | text [c] => some c
  | _ => none

/-- The set that a form is. -/
def set? : Form → Option CharSet
  | set s => some s
  | _ => none

/-- Whether the form takes no character at all. -/
def takesNothing : Form → Bool
  | empty | look _ => true
  | text _ | set _ => false
  | times _ _ _ f | group _ f => f.takesNothing
  | seq a b | alt a b => a.takesNothing && b.takesNothing

/-- The least number of bytes of a match; there is none if an empty set stands
in the way. -/
def least? : Form → Option Nat
  | empty | look _ => some 0
  | text t => some (Text.size t)
  | set s => if s.ranges.isEmpty then none else some 1
  | times low _ _ f => f.least?.map (low * ·)
  | group _ f => f.least?
  | seq a b => do return (← a.least?) + (← b.least?)
  | alt a b => do return min (← a.least?) (← b.least?)

/-! ## Construction -/

/-- The code points that are no characters. -/
def surrogates : CharSet := ⟨[⟨0xD800, 0xDFFF⟩]⟩

/-- One character of a set. -/
def ofSet (s : CharSet) : Form :=
  match s.diff surrogates with
  | ⟨[⟨first, last⟩]⟩ =>
    if first = last then text [Char.ofNat first] else set ⟨[⟨first, last⟩]⟩
  | s => set s

/-- A form before a row. -/
def andThen : Form → Form → Form
  | empty, b => b
  | seq x y, b => x.andThen (y.andThen b)
  | a, empty => a
  | text s, text t => text (s ++ t)
  | text s, seq (text t) more => seq (text (s ++ t)) more
  | a, b => seq a b

/-- Forms in a row. -/
def inRow (fs : List Form) : Form := fs.foldr andThen empty

/-- Forms as alternatives. -/
def eitherOf : List Form → Form
  | [] => set CharSet.empty
  | [f] => f
  | f :: fs => alt f (eitherOf fs)

/-- The parts with which a row and others begin. -/
def sharedParts : List Form → List (List Form) → List Form
  | [], _ => []
  | x :: xs, others =>
    if others.all fun o => o.head? == some x then x :: sharedParts xs (others.map List.tail)
    else []

/-- One of some forms; `fuel` bounds how often they begin with the same parts. -/
def oneOfWith : (fuel : Nat) → List Form → Form
  | 0, fs => eitherOf fs
  | fuel + 1, fs =>
    let fs := fs.flatMap branches
    match fs with
    | [] | [_] => eitherOf fs
    | f :: more =>
      match fs.mapM char?, fs.mapM set? with
      | some cs, _ => ofSet (CharSet.ofList cs)
      | none, some sets => ofSet (CharSet.unions sets)
      | none, none =>
        let shared := if fs.all isRow then sharedParts f.parts (more.map parts) else []
        if shared.isEmpty then eitherOf fs
        else
          let rests := fs.map fun f => inRow (f.parts.drop shared.length)
          inRow (shared ++ [oneOfWith fuel rests])

/-- One of some forms, an earlier one by preference. -/
def oneOf : List Form → Form
  | [f] => f
  | fs => oneOfWith (fs.foldl (fun n f => n + f.size) 0) fs

/-- A number of times.  What takes nothing is not done more than once. -/
def repeated (low : Nat) (high : Option Nat) (greedy : Bool) (f : Form) : Form :=
  let (low, high) :=
    if f.takesNothing then (min low 1, some (min (high.getD 1) 1)) else (low, high)
  if high = some 0 then empty
  else if low = 1 ∧ high = some 1 then f
  else times low high greedy f

/-- Once or not at all, rather once. -/
def opt (f : Form) : Form := times 0 (some 1) true f

/-- Any number of times, as often as can be. -/
def star (f : Form) : Form := times 0 none true f

/-- At least once, as often as can be. -/
def plus (f : Form) : Form := times 1 none true f

/-! ## The pattern of a form -/

/-- A pattern whose points have numbers from a given one on, and the number
after the last. -/
abbrev Numbered := Nat → Node × Nat

namespace Numbered

/-- One character of a set. -/
def one (s : CharSet) : Numbered := fun k => (.one k s, k + 1)

/-- A pattern before another, whose points have the numbers before. -/
def before (a : Numbered) : Node × Nat → Node × Nat
  | (rest, k) =>
    let (first, k) := a k
    (.seq first rest, k)

/-- A text. -/
def text (t : Text) : Numbered :=
  match t.reverse with
  | [] => fun k => (.empty, k)
  | c :: cs => fun k =>
    cs.foldl (fun rest c => (one (.singleton c)).before rest) (one (.singleton c) k)

/-- A number of times. -/
def exactly (a : Numbered) : Nat → Numbered
  | 0 => fun k => (.empty, k)
  | more + 1 => fun k => Nat.repeat a.before more (a k)

/-- Up to a number of times. -/
def upTo (greedy : Bool) (a : Numbered) (most : Nat) : Numbered := fun k =>
  Nat.repeat (fun rest =>
    let (n, k) := a.before rest
    (.opt k greedy n, k + 1)) most (.empty, k)

/-- At least `low` times. -/
def atLeast (greedy : Bool) (a : Numbered) : Nat → Numbered
  | 0 => fun k =>
    let (n, k) := a k
    (.star k (k + 1) greedy n, k + 2)
  | more + 1 => fun k =>
    let (n, k) := a k
    Nat.repeat a.before more (.rounds k greedy n, k + 1)

/-- At least `low` times, and at most `more` times besides. -/
def between (greedy : Bool) (a : Numbered) (low more : Nat) : Numbered := fun k =>
  Nat.repeat a.before low (a.upTo greedy more k)

end Numbered

/-- The pattern that a form stands for, with numbered points. -/
def numbered : Form → Numbered
  | empty => fun k => (.empty, k)
  | text t => .text t
  | set s => .one s
  | look cond => fun k => (.look cond, k)
  | times low none greedy f => f.numbered.atLeast greedy low
  | times low (some high) greedy f =>
    if low = high then f.numbered.exactly low
    else f.numbered.between greedy low (high - low)
  | group index f => fun k =>
    let (n, k) := f.numbered k
    (.group index n, k)
  | seq a b => fun k => a.numbered.before (b.numbered k)
  | alt a b => fun k =>
    let (second, k) := b.numbered k
    let (first, k) := a.numbered k
    (.alt k first second, k + 1)

/-- The pattern that a form stands for. -/
def toNode (f : Form) : Node := (f.numbered 0).1

example : oneOf [text ['a'], text ['b']] = set (CharSet.ofList ['a', 'b']) := by decide +kernel
example : oneOf [seq (look .textStart) (text ['a']), seq (look .textStart) (text ['b'])] =
    seq (look .textStart) (set (CharSet.ofList ['a', 'b'])) := by decide +kernel
example : inRow [text ['a'], empty, text ['b'], seq (text ['c']) (look .textEnd)] =
    seq (text ['a', 'b', 'c']) (look .textEnd) := by decide +kernel

end Form

end Emend.Pattern
