import Emend.Text.Basic
/-!
# Likeness of words

How much one word looks like a slip in writing another.

Two characters of the words match if they are equal and not too far apart; each
character matches at most one.  The likeness counts the characters that match
and those of them that come in another order.  Words with a likeness above a
limit gain from a common start, of which up to four characters count.
-/

namespace Emend.Likeness

/-- Marks the first free character equal to `c` in a part of a word of which
each character comes with whether it is taken; the first `skip` characters are
passed over, and `width` after them are looked at. -/
def takeMatch (c : Char) : (skip width : Nat) → List (Char × Bool) → Option (List (Char × Bool))
  | _, _, [] => none
  | skip + 1, width, d :: ds => (takeMatch c skip width ds).map (d :: ·)
  | 0, 0, _ => none
  | 0, width + 1, (d, taken) :: ds =>
    if d = c ∧ !taken then some ((d, true) :: ds)
    else (takeMatch c 0 width ds).map ((d, taken) :: ·)

/-- Matches the characters of a word, of which the first is at position `i`,
with those of another.  The result is the characters that match and what is
taken of the other word. -/
def matchFrom (range i : Nat) : Text → List (Char × Bool) → Text × List (Char × Bool)
  | [], other => ([], other)
  | c :: t, other =>
    let low := i - range
    match takeMatch c low (i + range + 1 - low) other with
    | some other =>
      let (matched, other) := matchFrom range (i + 1) t other
      (c :: matched, other)
    | none => matchFrom range (i + 1) t other

/-- The number of positions at which two lists differ. -/
def differences : Text → Text → Nat
  | a :: as, b :: bs => (if a = b then 0 else 1) + differences as bs
  | _, _ => 0

/-- The length of the common start of two lists. -/
def commonStart : Text → Text → Nat
  | a :: as, b :: bs => if a = b then commonStart as bs + 1 else 0
  | _, _ => 0

/-- A count as a double. -/
def real (n : Nat) : Float := n.toUInt64.toFloat

/-- The likeness of two words by their matching characters. -/
def jaro (a b : Text) : Float :=
  if a.isEmpty && b.isEmpty then 1.0
  else if a.isEmpty || b.isEmpty then 0.0
  else
    let range := max a.length b.length / 2 - 1
    let (fromA, marked) := matchFrom range 0 a (b.map fun c => (c, false))
    let fromB := (marked.filter Prod.snd).map Prod.fst
    let n := fromA.length
    if n = 0 then 0.0
    else
      let swaps := differences fromA fromB / 2
      (real n / real a.length + real n / real b.length + real (n - swaps) / real n) / 3.0

/-- The likeness of two words. -/
def jaroWinkler (a b : Text) : Float :=
  let base := jaro a b
  if base > 0.7 then
    base + 0.1 * real (commonStart (a.take 4) b) * (1.0 - base)
  else base

/-- The candidate most like a word, if one is like it enough; of several the
last. -/
def suggest? (word : Text) (candidates : List Text) : Option Text :=
  let scored := candidates.map fun c => (jaroWinkler (Text.asciiLower word) c, c)
  let likely := scored.filter fun (s, _) => s ≥ 0.8
  (likely.foldl (fun best entry =>
    match best with
    | none => some entry
    | some (s, c) => if entry.1 ≥ s then some entry else some (s, c)) none).map Prod.snd

end Emend.Likeness
