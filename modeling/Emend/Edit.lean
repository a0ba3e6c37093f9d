import Emend.Bytes.Utf8
import Emend.Match.Basic
import Emend.Text.Quoted
/-!
# Edits

An edit puts a text in place of a part of a content.  It carries what the part
must hold: a content in which it holds something else is left alone.  What a
long part must hold is known by its digest only.
-/

namespace Emend

/-- A digest of the UTF-8 form of a text, in 64 bits: the fold of FNV-1a.  It stands in
for xxh3_64, so edits take the digest as a parameter, and what is shown of them holds for
each one. -/
def Text.digest (t : Text) : UInt64 :=
  (Utf8.encode t).foldl (fun d b => (d ^^^ b.toUInt64) * 0x100000001B3) 0xCBF29CE484222325

/-- What a part of a content must hold. -/
inductive Expectation where
  /-- This text. -/
  | exact (t : Text)
  /-- A text with this digest. -/
  | digest (d : UInt64)
  deriving DecidableEq, Repr

namespace Expectation

/-- The size up to which a text is kept as it is. -/
def exactLimit : Nat := 1024

/-- What only the given text is to meet. -/
def ofText (t : Text) (hash : Text → UInt64 := Text.digest) : Expectation :=
  if Text.size t > exactLimit then digest (hash t) else exact t

/-- Whether a text is what is expected. -/
def meets (e : Expectation) (t : Text) (hash : Text → UInt64 := Text.digest) : Bool :=
  match e with
  | exact expected => t == expected
  | digest d => hash t == d

theorem meets_ofText (t : Text) (hash : Text → UInt64) :
    (ofText t hash).meets t hash = true := by
  unfold ofText
  split <;> simp [meets]

end Expectation

/-- Why an edit does not apply to a content. -/
inductive EditError where
  /-- The part is reversed or reaches past the end. -/
  | invalidRange (span : Span) (size : Nat)
  /-- An end of the part is inside a character. -/
  | insideCharacter (offset : Nat)
  /-- The part holds another text. -/
  | mismatch (span : Span) (found : Text)
  deriving DecidableEq, Repr

/-- What is said about an edit that does not apply. -/
def EditError.message : EditError → String
  | invalidRange span size =>
    s!"Invalid byte range: [{span.start}, {span.stop}) in content of length {size}"
  | insideCharacter offset => s!"Byte offset {offset} is not on a character boundary"
  | mismatch span found =>
    s!"Before-text verification failed at bytes [{span.start}, {span.stop}): found " ++
      String.ofList (Quoted.encode found)

/-- A text for a part of a content. -/
structure Edit where
  /-- The part. -/
  span : Span
  /-- The text that takes its place. -/
  text : Text
  /-- What the part must hold. -/
  expected : Expectation
  deriving DecidableEq, Repr

namespace Edit

/-- The edit that puts a text in place of one that is expected. -/
def replacing (span : Span) (expected text : Text) (hash : Text → UInt64 := Text.digest) : Edit :=
  ⟨span, text, .ofText expected hash⟩

/-- The edit that puts a text in place of a match. -/
def ofMatch (m : Match) (text : Text) (hash : Text → UInt64 := Text.digest) : Edit :=
  replacing m.span m.text text hash

/-- The edit that puts a text in at an offset. -/
def insertion (offset : Nat) (text : Text) (hash : Text → UInt64 := Text.digest) : Edit :=
  replacing ⟨offset, offset⟩ [] text hash

/-- The content before the part, the part, and the content after it, if the
edit applies. -/
def parts (content : Text) (e : Edit) (hash : Text → UInt64 := Text.digest) :
    Except EditError (Text × Text × Text) :=
  let size := Text.size content
  if e.span.stop < e.span.start ∨ size < e.span.stop then .error (.invalidRange e.span size)
  else
    match Text.splitAt? e.span.start content with
    | none => .error (.insideCharacter e.span.start)
    | some (before, rest) =>
      match Text.splitAt? e.span.length rest with
      | none => .error (.insideCharacter e.span.stop)
      | some (part, after) =>
        if e.expected.meets part hash then .ok (before, part, after)
        else .error (.mismatch e.span part)

/-- The content with the edit made. -/
def splice (content : Text) (e : Edit) (hash : Text → UInt64 := Text.digest) :
    Except EditError Text :=
  (e.parts content hash).map fun (before, _, after) => before ++ e.text ++ after

example : (insertion 1 ['x']).splice ['a', 'b'] = .ok ['a', 'x', 'b'] := rfl
example : (insertion 1 ['x']).splice ['é'] = .error (.insideCharacter 1) := rfl
example : (insertion 3 ['x']).splice ['é'] = .error (.invalidRange ⟨3, 3⟩ 2) := rfl

end Edit

end Emend
