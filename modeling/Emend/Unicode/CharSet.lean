/-!
# Sets of characters

A set of characters is a list of ranges of code points, ascending, disjoint
and with gaps between them.  `CharSet.ofRanges` brings any list of ranges to
this form, and the operations on sets keep it.

A table of ranges is written as a text: `41-5A` is a range, `AA` a single
code point, and `100-136/2` every second code point of a range, all in
hexadecimal and separated by blanks.
-/

namespace Emend

/-- The code points from `first` to `last`, both included. -/
structure CharRange where
  /-- The least code point. -/
  first : Nat
  /-- The greatest code point. -/
  last : Nat
  deriving DecidableEq, Repr

/-- A set of characters, as ascending ranges with gaps between them. -/
structure CharSet where
  /-- The ranges. -/
  ranges : List CharRange
  deriving DecidableEq, Repr

namespace CharSet

/-- The greatest code point. -/
def maxCode : Nat := 0x10FFFF

/-- Whether a code point lies in one of ascending ranges. -/
def inRanges (n : Nat) : List CharRange → Bool
  | [] => false
  | r :: rs => if n < r.first then false else if n ≤ r.last then true else inRanges n rs

/-- Whether the set holds a character. -/
def contains (s : CharSet) (c : Char) : Bool := inRanges c.toNat s.ranges

/-- No character. -/
def empty : CharSet := ⟨[]⟩

/-- Joins ranges that touch or overlap; they come in the order of their least
code points. -/
def coalesce (r : CharRange) : List CharRange → List CharRange
  | [] => [r]
  | s :: rest =>
    if s.first ≤ r.last + 1 then coalesce ⟨r.first, max r.last s.last⟩ rest
    else r :: coalesce s rest

/-- Puts the range `r` before those of a list that start no earlier, and then
what `rest` makes of them. -/
def mergeRange (r : CharRange) (rest : List CharRange → List CharRange) :
    List CharRange → List CharRange
  | [] => r :: rest []
  | s :: ss => if r.first ≤ s.first then r :: rest (s :: ss) else s :: mergeRange r rest ss

/-- Two lists of ranges, each ascending by least code point, as one. -/
def mergeRanges : List CharRange → List CharRange → List CharRange
  | [] => id
  | r :: rs => mergeRange r (mergeRanges rs)

/-- The set of the code points in ranges that ascend by least code point. -/
def ofAscending : List CharRange → CharSet
  | [] => empty
  | r :: rest => ⟨coalesce r rest⟩

/-- The set of all code points in some ranges; a range whose ends are swapped
holds none. -/
def ofRanges (rs : List CharRange) : CharSet :=
  ofAscending ((rs.filter fun r => r.first ≤ r.last).foldr (fun r => mergeRanges [r]) [])

/-- The set of one character. -/
def singleton (c : Char) : CharSet := ⟨[⟨c.toNat, c.toNat⟩]⟩

/-- The set of the given characters. -/
def ofList (cs : List Char) : CharSet := ofRanges (cs.map fun c => ⟨c.toNat, c.toNat⟩)

/-- The characters in either set. -/
def union (a b : CharSet) : CharSet := ofAscending (mergeRanges a.ranges b.ranges)

/-- The characters in one of the sets. -/
def unions (sets : List CharSet) : CharSet := sets.foldr union empty

/-- The gaps between ascending ranges from code point `start` on. -/
def gapsFrom (start : Nat) : List CharRange → List CharRange
  | [] => if start ≤ maxCode then [⟨start, maxCode⟩] else []
  | r :: rs =>
    if start < r.first then ⟨start, r.first - 1⟩ :: gapsFrom (r.last + 1) rs
    else gapsFrom (r.last + 1) rs

/-- The characters not in the set. -/
def compl (s : CharSet) : CharSet := ⟨gapsFrom 0 s.ranges⟩

/-- Every character. -/
def all : CharSet := ⟨[⟨0, maxCode⟩]⟩

/-- The characters in both sets. -/
def inter (a b : CharSet) : CharSet := (a.compl.union b.compl).compl

/-- The characters of the first set that are not in the second. -/
def diff (a b : CharSet) : CharSet := a.inter b.compl

/-- The characters in exactly one of the sets. -/
def symmDiff (a b : CharSet) : CharSet := (a.union b).diff (a.inter b)

/-! ## Tables -/

/-- The value of a hexadecimal numeral. -/
def hexValue (digits : List Char) : Nat :=
  digits.foldl (fun n c =>
    16 * n + (if c.isDigit then c.toNat - '0'.toNat else c.toNat - 'A'.toNat + 10)) 0

/-- The ranges that one entry of a table stands for. -/
def entryRanges (entry : List Char) : List CharRange :=
  let ends := entry.takeWhile (· != '/')
  let first := hexValue (ends.takeWhile (· != '-'))
  match ends.dropWhile (· != '-') with
  | [] => [⟨first, first⟩]
  | _ :: digits =>
    let last := hexValue digits
    match entry.dropWhile (· != '/') with
    | [] => [⟨first, last⟩]
    | _ :: step =>
      let step := hexValue step
      (List.range ((last - first) / step + 1)).map fun i => ⟨first + step * i, first + step * i⟩

/-- The pieces of a table between its blanks, the last of them still open. -/
def entries : List Char → List (List Char)
  | [] => [[]]
  | c :: t =>
    if c = ' ' ∨ c = '\n' then [] :: entries t
    else match entries t with
      | [] => [[c]]
      | e :: es => (c :: e) :: es

/-- The set that a table lists. -/
def ofTable (table : String) : CharSet :=
  ofRanges (((entries table.toList).filter fun e => !e.isEmpty).flatMap entryRanges)

example : ofTable "41-43 45-49/2 4A" =
    ⟨[⟨0x41, 0x43⟩, ⟨0x45, 0x45⟩, ⟨0x47, 0x47⟩, ⟨0x49, 0x4A⟩]⟩ := by decide +kernel
example : (singleton 'a').compl.contains 'a' = false := by decide +kernel

end CharSet

end Emend
