import Std.Data.HashMap
import Emend.Bytes.Ranges
import Emend.Pattern.Form
/-!
# The room that patterns take

A pattern may take only so much room.  What counts is the room of two automata
over bytes that search for it, one forward and one backward.

* A state has the same room whatever it does; one that goes on in several ways
  has room for each of them besides.
* A text is a row of states, one for each byte.  Alternatives that are all
  texts share the states of their common beginnings.
* A set is made of the sequences of byte ranges of its characters.  Forward,
  states that go on alike are made once; backward, sequences share the states
  of their leading bytes.  Both rest on a memory that has a fixed number of
  slots, so a state that was displaced from its slot is made again.
* What is to be done several times is made several times.

A pattern that is nothing but very many texts needs no automaton.

States are numbered in the order in which they are made.  The slot of a state
depends on the numbers of others, so the room does depend on this order.
-/

namespace Emend.Pattern

open Utf8 (ByteRange)

/-- The room that has been taken. -/
structure Meter where
  /-- The number of states, which is the number of the next one. -/
  states : Nat
  /-- The room for the ways in which states go on. -/
  ways : Nat

namespace Meter

/-- The room of a state. -/
def perState : Nat := 32

/-- The room for a byte range and where it leads. -/
def perRange : Nat := 8

/-- The room for a way that takes no byte. -/
def perBranch : Nat := 4

/-- The room that a pattern may take. -/
def limit : Nat := 0xA00000

/-- All room that has been taken. -/
def total (m : Meter) : Nat := perState * m.states + m.ways

/-- Takes room for states and ways, if there is any left. -/
def take (states ways : Nat) (m : Meter) : Option Meter :=
  let m : Meter := ⟨m.states + states, m.ways + ways⟩
  if m.total ≤ limit then some m else none

/-- Takes room a number of times. -/
def repeated (one : Meter → Option Meter) : Nat → Meter → Option Meter
  | 0, m => some m
  | n + 1, m =>
    match one m with
    | none => none
    | some m => repeated one n m

end Meter

/-! ## Slots -/

/-- A memory of states by what they do. -/
abbrev Memory (α : Type) := Std.HashMap UInt64 (α × Nat)

/-- The start of a slot number. -/
def slotSeed : UInt64 := 14695981039346656037

/-- A slot number with a number mixed in. -/
def mixSlot (h n : UInt64) : UInt64 := (h ^^^ n) * 1099511628211

namespace Memory

/-- The state that a slot holds for what it is to do. -/
def find? {α : Type} [DecidableEq α] (memory : Memory α) (slot : UInt64) (a : α) : Option Nat :=
  match memory[slot]? with
  | some (b, id) => if a = b then some id else none
  | none => none

end Memory

/-! ## Sets, forward -/

/-- A byte range and the state to which it leads. -/
structure Way where
  /-- The bytes. -/
  range : ByteRange
  /-- The state. -/
  next : Nat
  deriving DecidableEq

/-- The slot of a state with the given ways. -/
def waysSlot (ways : List Way) : UInt64 :=
  ways.foldl (fun h w =>
    mixSlot (mixSlot (mixSlot h w.range.first.toUInt64) w.range.last.toUInt64) w.next.toUInt64)
    slotSeed % 10000

/-- The sequences that begin with each byte range, without it. -/
def byFirst : List (List ByteRange) → List (ByteRange × List (List ByteRange))
  | [] => []
  | [] :: rest => byFirst rest
  | (r :: tail) :: rest =>
    match byFirst rest with
    | (s, tails) :: groups =>
      if r = s then (r, tail :: tails) :: groups else (r, [tail]) :: (s, tails) :: groups
    | [] => [(r, [tail])]

/-- The states of a set as far as they are made. -/
abbrev Making (α : Type) := Meter × Memory α

/-- The state with the given ways. -/
def stateOf (ways : List Way) : Making (List Way) → Option (Nat × Making (List Way))
  | (m, memory) =>
    let slot := waysSlot ways
    match memory.find? slot ways with
    | some id => some (id, m, memory)
    | none => do
      return (m.states, ← m.take 1 (Meter.perRange * ways.length),
        memory.insert slot (ways, m.states))

/-- The state from which sequences of at most `length` ranges lead to `target`. -/
def stateBefore (target : Nat) :
    (length : Nat) → List (List ByteRange) → Making (List Way) → Option (Nat × Making (List Way))
  | length + 1, (r :: tail) :: rest, making => do
    let (ways, making) ← (byFirst ((r :: tail) :: rest)).foldlM (fun (ways, making) (r, tails) => do
      let (next, making) ← stateBefore target length tails making
      return (ways ++ [⟨r, next⟩], making)) ([], making)
    stateOf ways making
  | _, _, making => some (target, making)

/-- Takes room for the sequences of a set, forward. -/
def takeForward (sequences : List (List ByteRange)) (m : Meter) : Option Meter := do
  let (_, m, _) ← stateBefore m.states 4 sequences (← m.take 1 0, {})
  return m

/-! ## Sets, backward -/

/-- A byte range before the bytes that lead on from a state. -/
structure Before where
  /-- The state. -/
  state : Nat
  /-- The bytes. -/
  range : ByteRange
  deriving DecidableEq

/-- The slot of a state that takes a byte range before another. -/
def beforeSlot (b : Before) : UInt64 :=
  mixSlot (mixSlot (mixSlot slotSeed b.state.toUInt64) b.range.first.toUInt64)
    b.range.last.toUInt64 % 1000

/-- Takes room for one sequence, whose ranges are made from the first one on. -/
def takeSequence (state : Nat) : List ByteRange → Making Before → Option (Making Before)
  | [], (m, memory) => do return (← m.take 0 Meter.perBranch, memory)
  | range :: rest, (m, memory) =>
    let before : Before := { state, range }
    let slot := beforeSlot before
    match memory.find? slot before with
    | some id => takeSequence id rest (m, memory)
    | none => do
      takeSequence m.states rest (← m.take 1 0, memory.insert slot (before, m.states))

/-- Takes room for the sequences of a set, backward. -/
def takeBackward (sequences : List (List ByteRange)) (m : Meter) : Option Meter := do
  let (m, _) ← sequences.foldlM (fun making s => takeSequence (m.states + 1) s making)
    (← m.take 2 0, {})
  return m

/-- Takes room for a set. -/
def takeSet (backward : Bool) (s : CharSet) (m : Meter) : Option Meter :=
  if s.ranges.all fun r => r.last < 0x80 then m.take 2 (Meter.perRange * s.ranges.length)
  else
    let sequences := s.ranges.flatMap Utf8.sequences
    if backward then takeBackward sequences m else takeForward sequences m

/-! ## Texts that are alternatives -/

/-- The texts between those that have ended.  A text that ends where no other
has gone on yet counts once. -/
def runs (fresh : Bool) : List Bytes → List (List Bytes)
  | [] => [[]]
  | [] :: rest =>
    if fresh && rest.head? == some [] then runs fresh rest else [] :: runs fresh rest
  | t :: rest =>
    match runs false rest with
    | run :: more => (t :: run) :: more
    | [] => [[t]]

/-- The rests of the texts after each byte that they start with. -/
def byByte : List Bytes → List (UInt8 × List Bytes)
  | [] => []
  | [] :: rest => byByte rest
  | (b :: tail) :: rest =>
    let groups := byByte rest
    match groups.lookup b with
    | some tails => (b, tail :: tails) :: groups.filter fun g => g.1 != b
    | none => (b, [tail]) :: groups

/-- The states and the room for ways of texts of at most `length` bytes. -/
def textsRoom : (length : Nat) → List Bytes → Nat × Nat
  | 0, _ => (0, 0)
  | length + 1, texts =>
    if texts.all List.isEmpty then (0, 0)
    else
      let runs := (runs true texts).map byByte
      let taking := runs.filter fun run => !run.isEmpty
      let branches := taking.length + (runs.length - 1)
      let own := taking.foldl (fun n run =>
        if run.length = 1 then n else n + Meter.perRange * run.length) 0
      let inner := (taking.flatMap fun run => run.map fun g => textsRoom length g.2)
      inner.foldl (fun (states, ways) (s, w) => (states + s, ways + w))
        (1 + taking.length, Meter.perBranch * branches + own)

/-- Takes room for texts that are alternatives. -/
def takeTexts (backward : Bool) (texts : List Text) (m : Meter) : Option Meter :=
  let texts := texts.map fun t => if backward then (Utf8.encode t).reverse else Utf8.encode t
  let longest := (texts.map List.length).foldl max 0
  let (states, ways) := textsRoom longest texts
  m.take (states + 1) ways

/-! ## Forms -/

/-- The place of an alternative among others. -/
inductive Role where
  /-- It is no alternative, or the first one. -/
  | alone
  /-- It is the second one. -/
  | second
  /-- It comes later. -/
  | later

namespace Form

/-- Whether the last state that is made for a form is one that may go back. -/
def endsInLoop (backward : Bool) : Form → Bool
  | times 0 none _ f => f.least?.any (0 < ·)
  | times _ none _ _ => true
  | times low (some high) _ f => low == high && f.endsInLoop backward
  | group _ f => backward && f.endsInLoop backward
  | seq a b => if backward then a.endsInLoop backward else b.endsInLoop backward
  | _ => false

/-- The room for the way on from the end of a form. -/
def endRoom (backward : Bool) (f : Form) : Nat :=
  if f.endsInLoop backward then Meter.perBranch else 0

/-- Takes the room that an alternative needs besides its own. -/
def takeRole (backward : Bool) (role : Role) (f : Form) (m : Meter) : Option Meter :=
  match role with
  | .alone => some m
  | .second => m.take 2 (2 * Meter.perBranch + f.endRoom backward)
  | .later => m.take 0 (Meter.perBranch + f.endRoom backward)

/-- Takes room for a number of times of a form for which `one` takes room. -/
def takeTimes (low : Nat) (high : Option Nat) (endRoom : Nat) (mayBeEmpty : Bool)
    (one : Meter → Option Meter) (m : Meter) : Option Meter :=
  let linked (m : Meter) : Option Meter := do (← one m).take 0 endRoom
  match low, high with
  | 0, some 1 => do (← linked (← m.take 1 0)).take 1 (2 * Meter.perBranch)
  | 0, none => do
    if mayBeEmpty then (← linked m).take 3 (4 * Meter.perBranch)
    else (← linked (← m.take 1 0)).take 0 Meter.perBranch
  | low, none => do (← Meter.repeated linked low m).take 1 Meter.perBranch
  | low, some high => do
    let m ← match low with
      | 0 => m.take 1 0
      | more + 1 => do one (← Meter.repeated linked more m)
    if low = high then some m
    else
      let optional (m : Meter) : Option Meter := do
        (← linked (← m.take 1 0)).take 0 (2 * Meter.perBranch)
      let m ← m.take 1 (if low = 0 then 0 else endRoom)
      Meter.repeated optional (high - low) m

/-- Takes room for a form. -/
def take (backward : Bool) (role : Role) : Form → Meter → Option Meter
  | empty, m => do takeRole backward role empty (← m.take 1 0)
  | text t, m => do takeRole backward role (text t) (← m.take (Text.size t) 0)
  | set s, m => do takeRole backward role (set s) (← takeSet backward s m)
  | look cond, m => do takeRole backward role (look cond) (← m.take 1 0)
  | times low high greedy f, m => do
    let one := f.take backward .alone
    let mayBeEmpty := !f.least?.any (0 < ·)
    takeRole backward role (times low high greedy f)
      (← takeTimes low high (f.endRoom backward) mayBeEmpty one m)
  | group index f, m => do
    let m ← if backward then f.take backward .alone m
      else do (← f.take backward .alone (← m.take 1 0)).take 1 (f.endRoom backward)
    takeRole backward role (group index f) m
  | seq a b, m => do
    let m ← if backward then do
        a.take backward .alone (← (← b.take backward .alone m).take 0 (b.endRoom backward))
      else do
        b.take backward .alone (← (← a.take backward .alone m).take 0 (a.endRoom backward))
    takeRole backward role (seq a b) m
  | alt a b, m =>
    match role with
    | .alone =>
      match (alt a b).branches.mapM text? with
      | some texts => takeTexts backward texts m
      | none => do
        b.take backward .second (← (← a.take backward .alone m).take 0 (a.endRoom backward))
    | .second => do b.take backward .later (← a.take backward .second m)
    | .later => do b.take backward .later (← a.take backward .later m)

/-- Whether a match can only begin at the start of the text, or, backward, only
end at its end. -/
def isAnchored (backward : Bool) : Form → Bool
  | look cond => cond = if backward then .textEnd else .textStart
  | times low _ _ f => 0 < low && f.isAnchored backward
  | group _ f => f.isAnchored backward
  | seq a b =>
    if backward then b.isAnchored backward || (b.takesNothing && a.isAnchored backward)
    else a.isAnchored backward || (a.takesNothing && b.isAnchored backward)
  | alt a b => a.isAnchored backward && b.isAnchored backward
  | _ => false

/-- The room of a search for a form, if there is enough: before the form stands
a loop over all bytes unless its matches are anchored; after it stands a state
that says that it was found; and forward, the place of the match is noted. -/
def searchRoom? (backward : Bool) (f : Form) : Option Meter := do
  let anchored := f.isAnchored backward
  let m : Meter := ⟨0, 0⟩
  let m ← if anchored then m.take 1 0 else m.take 3 (Meter.perRange + Meter.perBranch)
  let m ← if backward then some m else m.take 1 0
  let m ← f.take backward .alone m
  let m ← m.take (if backward then 1 else 2) (f.endRoom backward)
  m.take 0 (if anchored then 0 else Meter.perBranch)

/-- The number of texts from which on they are sought without an automaton. -/
def manyTexts : Nat := 3000

/-- Whether a form is alternatives that are many texts. -/
def isManyTexts (f : Form) : Bool :=
  (f.branches.mapM text?).any fun texts => manyTexts ≤ texts.length

/-- Whether a form does not take too much room. -/
def fits (f : Form) : Bool :=
  f.isManyTexts || ((f.searchRoom? false).isSome && (f.searchRoom? true).isSome)

end Form

end Emend.Pattern
