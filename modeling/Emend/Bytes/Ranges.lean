import Emend.Bytes.Utf8
import Emend.Unicode.CharSet
/-!
# Characters as ranges of bytes

The encoded forms of the characters in a range can be listed by a few sequences
of byte ranges: a byte string is such a form if each of its bytes is in the
range at its place.

A range of characters is cut until one sequence is enough for each piece: where
the forms become longer, and where a leading byte changes while the bytes after
it do not go through all their values.
-/

namespace Emend.Utf8

/-- The bytes from `first` to `last`, both included. -/
structure ByteRange where
  /-- The least byte. -/
  first : UInt8
  /-- The greatest byte. -/
  last : UInt8
  deriving DecidableEq, Repr

/-- The ranges of the bytes of two forms of one length. -/
def sequenceOf (first last : Nat) : List ByteRange :=
  List.zipWith ByteRange.mk (encodeChar (Char.ofNat first)) (encodeChar (Char.ofNat last))

/-- Where the forms become longer. -/
def longerFrom : List Nat := [0x80, 0x800, 0x10000]

/-- Where a range is cut at a multiple of one of the given block sizes, if it
reaches over several blocks of which the first or the last is not whole. -/
def blockCut? (first last : Nat) : List Nat → Option Nat
  | [] => none
  | block :: blocks =>
    if first / block = last / block then blockCut? first last blocks
    else if first % block ≠ 0 then some ((first / block + 1) * block)
    else if last % block ≠ block - 1 then some (last / block * block)
    else blockCut? first last blocks

/-- The first code point after the place where a range is cut. -/
def cut? (first last : Nat) : Option Nat :=
  match longerFrom.find? fun n => first < n && n ≤ last with
  | some n => some n
  | none => if last < 0x80 then none else blockCut? first last [0x40, 0x1000, 0x40000]

/-- The sequences of a range that is cut so many times on the way to each of
them. -/
def sequencesFrom : (cuts first last : Nat) → List (List ByteRange)
  | 0, first, last => [sequenceOf first last]
  | cuts + 1, first, last =>
    match cut? first last with
    | none => [sequenceOf first last]
    | some n => sequencesFrom cuts first (n - 1) ++ sequencesFrom cuts n last

/-- The sequences of a range of characters, in ascending order. -/
def sequences (r : CharRange) : List (List ByteRange) := sequencesFrom 16 r.first r.last

example : sequences ⟨0x61, 0x7A⟩ = [[⟨0x61, 0x7A⟩]] := by decide +kernel
example : sequences ⟨0x70, 0x8F⟩ = [[⟨0x70, 0x7F⟩], [⟨0xC2, 0xC2⟩, ⟨0x80, 0x8F⟩]] := by
  decide +kernel
example : sequences ⟨0xE000, 0xFFFF⟩ =
    [[⟨0xEE, 0xEF⟩, ⟨0x80, 0xBF⟩, ⟨0x80, 0xBF⟩]] := by decide +kernel

end Emend.Utf8
