import Emend.Pattern.Node
/-!
# Searching a text for a pattern

A search goes through the text once and keeps a list of the ways in which a
match can go on, the preferred ones first.  Such a way, a `Thread`, is what is
still to be matched, together with the marks noted so far.

* At each place the threads are taken in order, and each goes through the
  pattern without taking a character, by the preferred way first, wherever it
  can get to.  A `Front` is what has come of this.
* No point of the pattern is passed twice at one place: what comes to it later
  would go on just as what came first, and is less preferred.
* A thread that gets to the end of the pattern has found a match, which ends all
  that comes later at this place.
* A thread that gets to a character of the text takes it, and is a thread at the
  next place.
* A match may start at any place of the text, so a new thread joins at each,
  after those that started earlier, as long as nothing has been found.

The match that is found starts as early as any, and among those with this
start it is the preferred one.
-/

namespace Emend.Pattern

/-- The noted places: slots with offsets, the last noted first. -/
abbrev Marks := List (Nat × Nat)

/-- A way in which a match can go on. -/
structure Thread where
  /-- The patterns still to be matched, one after the other. -/
  rest : List Node
  /-- The places noted so far. -/
  marks : Marks

/-- What has come of the threads at a place so far. -/
structure Front where
  /-- The points of the pattern that have been passed: the bits that are set. -/
  passed : Nat := 0
  /-- The threads that have taken the next character, the last one first. -/
  next : List Thread := []
  /-- The marks of the match that has been found. -/
  found : Option Marks := none

namespace Front

/-- Goes on at a point of the pattern, unless it has been passed or a match has
been found. -/
def pass (number : Nat) (goOn : Front → Front) (f : Front) : Front :=
  if f.found.isSome || f.passed.testBit number then f
  else goOn { f with passed := f.passed ||| 1 <<< number }

/-- Goes on in two ways at a point of the pattern. -/
def branch (number : Nat) (first second : Front → Front) : Front → Front :=
  pass number fun f => second (first f)

/-- Notes that a match has been found, unless one was found before. -/
def finish (marks : Marks) (f : Front) : Front :=
  if f.found.isSome then f else { f with found := some marks }

/-- Adds a thread that has taken a character. -/
def push (t : Thread) (f : Front) : Front := { f with next := t :: f.next }

end Front

/-- Goes through a pattern at a place.  Where it ends without having taken a
character, `goOn` says what follows; where a character is taken, `rest` is what
is still to be matched after the pattern. -/
def Node.explore (p : Place) :
    Node → (rest : List Node) → (goOn : Marks → Front → Front) → Marks → Front → Front
  | .empty, _, goOn, m => goOn m
  | .one k s, rest, _, m => Front.pass k fun f =>
    if p.after.any s.contains then f.push ⟨rest, m⟩ else f
  | .look l, _, goOn, m => if l.holds p then goOn m else id
  | .mark slot, _, goOn, m => goOn ((slot, p.offset) :: m)
  | .seq a b, rest, goOn, m => a.explore p (b :: rest) (b.explore p rest goOn) m
  | .alt k a b, rest, goOn, m =>
    Front.branch k (a.explore p rest goOn m) (b.explore p rest goOn m)
  | .loop k greedy r, rest, goOn, m =>
    let again := r.explore p (.loop k greedy r :: rest) (fun _ => id) m
    if greedy then Front.branch k again (goOn m) else Front.branch k (goOn m) again
  | .rounds k greedy r, rest, goOn, m =>
    r.explore p (.loop k greedy r :: rest) (fun m =>
      let again := r.explore p (.loop k greedy r :: rest) (fun _ => id) m
      if greedy then Front.branch k again (goOn m) else Front.branch k (goOn m) again) m

/-- Goes through patterns that are to be matched one after the other. -/
def exploreAll (p : Place) : List Node → Marks → Front → Front
  | [], m => Front.finish m
  | n :: ns, m => n.explore p ns (exploreAll p ns) m

/-- What comes of the threads at a place. -/
def frontOf (p : Place) (threads : List Thread) : Front :=
  threads.foldl (fun f t => exploreAll p t.rest t.marks f) {}

/-- The threads after which one that starts here has joined, unless there is a
match. -/
def join (n : Node) (best : Option Marks) (threads : List Thread) : List Thread :=
  if best.isSome then threads else threads ++ [⟨[.group 0 n], []⟩]

/-- The marks of the preferred match in a text, or `best` if there is none.
The text is at `offset`, after the character `before`. -/
def run (n : Node) (before : Option Char) (offset : Nat) (best : Option Marks)
    (threads : List Thread) : Text → Option Marks
  | [] => (frontOf ⟨before, none, offset⟩ (join n best threads)).found.or best
  | c :: t =>
    if best.isSome && threads.isEmpty then best
    else
      let front := frontOf ⟨before, some c, offset⟩ (join n best threads)
      run n (some c) (offset + c.utf8Size) (front.found.or best) front.next.reverse t

/-- A match: the marks of the pattern's groups, of which the match itself is
number zero. -/
structure Found where
  /-- The noted places. -/
  marks : Marks

namespace Found

/-- The offset last noted in a slot. -/
def slot? (f : Found) (slot : Nat) : Option Nat := f.marks.lookup slot

/-- The place of a group that took part in the match. -/
def group? (f : Found) (index : Nat) : Option Span := do
  return ⟨← f.slot? (2 * index), ← f.slot? (2 * index + 1)⟩

/-- The place of the match. -/
def span (f : Found) : Span := (f.group? 0).getD ⟨0, 0⟩

end Found

/-- The first match in a text that is at `offset`, after the character
`before`. -/
def findFrom (n : Node) (before : Option Char) (offset : Nat) (t : Text) : Option Found :=
  (run n before offset none [] t).map Found.mk

/-- The first result that `f` makes of a match.  Matches are sought from left
to right; each search starts where the match before ended, or one byte later if
that match was empty.  Nothing before the offset `resume` is looked at. -/
def searchSome {β : Type} (n : Node) (f : Found → Option β) (resume : Nat) (before : Option Char)
    (offset : Nat) : Text → Option β
  | [] =>
    if offset < resume then none else (findFrom n before offset []).bind f
  | c :: t =>
    let goOn (resume : Nat) := searchSome n f resume (some c) (offset + c.utf8Size) t
    if offset < resume then goOn resume
    else match findFrom n before offset (c :: t) with
      | none => none
      | some found =>
        match f found with
        | some b => some b
        | none => goOn (max found.span.stop (found.span.start + 1))

/-- The first result that `f` makes of one of the matches in a text. -/
def findSome {β : Type} (n : Node) (f : Found → Option β) (t : Text) : Option β :=
  searchSome n f 0 none 0 t

/-- The first match in a text. -/
def find (n : Node) (t : Text) : Option Found := findFrom n none 0 t

end Emend.Pattern
