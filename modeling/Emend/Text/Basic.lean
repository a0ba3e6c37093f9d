/-!
# Text and byte offsets

A text is its list of Unicode scalar values.  Offsets into a text count the
bytes of its UTF-8 form, so a text has offsets that fall inside a character
and name no place in it.

* `size` is the number of bytes a text takes.
* `splitAt?` cuts a text at an offset, where the offset names a place.
* `slice?` is the part between two offsets, where both name a place and come
  in order; `slice` is the same for offsets that are known to be good.

The rest are the cuts by content that everything else is built from: on a
character, at the first occurrence of a text, after a leading text.
-/

namespace Emend

/-- A text: its Unicode scalar values in order. -/
abbrev Text := List Char

namespace Text

/-! ## Offsets -/

/-- The number of bytes of the UTF-8 form. -/
def size : Text → Nat
  | [] => 0
  | c :: t => c.utf8Size + size t

/-- The two parts on either side of byte offset `n`, if `n` is an offset
between two characters or at an end. -/
def splitAt? : Nat → Text → Option (Text × Text)
  | 0, t => some ([], t)
  | _ + 1, [] => none
  | n + 1, c :: t =>
    if c.utf8Size ≤ n + 1 then
      (splitAt? (n + 1 - c.utf8Size) t).map fun (before, after) => (c :: before, after)
    else none

/-- The part from offset `start` up to offset `stop`, if both are places in
the text and come in this order. -/
def slice? (start stop : Nat) (t : Text) : Option Text := do
  let (_, rest) ← splitAt? start t
  if start ≤ stop then
    let (part, _) ← splitAt? (stop - start) rest
    return part
  else none

/-- The part from `start` up to `stop` for offsets that are places in the
text; empty when they are not. -/
def slice (start stop : Nat) (t : Text) : Text :=
  (slice? start stop t).getD []

/-- The part from offset `start` on. -/
def dropBytes (start : Nat) (t : Text) : Text :=
  ((splitAt? start t).map Prod.snd).getD []

/-- Whether offset `n` is a place in the text. -/
def isBoundary (n : Nat) (t : Text) : Bool := (splitAt? n t).isSome

theorem size_append (a b : Text) : size (a ++ b) = size a + size b := by
  induction a with
  | nil => simp [size]
  | cons c t ih => simp only [List.cons_append, size, ih]; omega

/-- Cutting where a first part ends gives back the two parts. -/
theorem splitAt?_size (a b : Text) : splitAt? (size a) (a ++ b) = some (a, b) := by
  induction a with
  | nil => simp [size, splitAt?]
  | cons c t ih =>
      have hc : 0 < c.utf8Size := c.utf8Size_pos
      obtain ⟨m, hm⟩ : ∃ m, size (c :: t) = m + 1 := ⟨size (c :: t) - 1, by simp [size]; omega⟩
      have hle : c.utf8Size ≤ m + 1 := by rw [← hm]; simp [size]
      have hsub : m + 1 - c.utf8Size = size t := by rw [← hm]; simp [size]
      simp [hm, splitAt?, hle, hsub, ih]

/-- The parts of a cut put together are the text, and the first one is as
long as the offset says. -/
theorem splitAt?_eq_some {n : Nat} {t before after : Text}
    (h : splitAt? n t = some (before, after)) : before ++ after = t ∧ size before = n := by
  induction t generalizing n before with
  | nil =>
      cases n with
      | zero => simp [splitAt?] at h; obtain ⟨rfl, rfl⟩ := h; simp [size]
      | succ n => simp [splitAt?] at h
  | cons c t ih =>
      cases n with
      | zero => simp [splitAt?] at h; obtain ⟨rfl, rfl⟩ := h; simp [size]
      | succ n =>
          simp only [splitAt?] at h
          split at h
          · next hle =>
            obtain ⟨⟨b, a⟩, hb, heq⟩ := Option.map_eq_some_iff.1 h
            simp only [Prod.mk.injEq] at heq
            obtain ⟨rfl, rfl⟩ := heq
            obtain ⟨h1, h2⟩ := ih hb
            refine ⟨by simp [h1], ?_⟩
            simp only [size, h2]; omega
          · simp at h

/-! ## Cuts by content -/

/-- The pieces between the occurrences of `sep`; one more than there are
occurrences. -/
def splitOn (sep : Char) : Text → List Text
  | [] => [[]]
  | c :: t =>
    if c = sep then [] :: splitOn sep t
    else match splitOn sep t with
      | [] => [[c]]
      | piece :: pieces => (c :: piece) :: pieces

/-- The pieces put together again, with `sep` between two of them. -/
def join (sep : Text) : List Text → Text
  | [] => []
  | [piece] => piece
  | piece :: pieces => piece ++ sep ++ join sep pieces

/-- What follows `lead`, in a text that starts with it. -/
def afterLead? : (lead t : Text) → Option Text
  | [], t => some t
  | _ :: _, [] => none
  | p :: ps, c :: t => if c = p then afterLead? ps t else none

/-- Whether the text starts with `lead`. -/
def startsWith (lead t : Text) : Bool := (afterLead? lead t).isSome

/-- What precedes `tail`, in a text that ends with it. -/
def beforeTail? (tail t : Text) : Option Text :=
  (afterLead? tail.reverse t.reverse).map List.reverse

/-- Whether the text ends with `tail`. -/
def endsWith (tail t : Text) : Bool := (beforeTail? tail t).isSome

/-- The parts before and after the first occurrence of `needle`. -/
def breakOn? (needle : Text) : Text → Option (Text × Text)
  | [] => (afterLead? needle []).map fun after => ([], after)
  | c :: t =>
    match afterLead? needle (c :: t) with
    | some after => some ([], after)
    | none => (breakOn? needle t).map fun (before, after) => (c :: before, after)

/-- The text before the first character in which `p` holds. -/
def before (p : Char → Bool) (t : Text) : Text := t.takeWhile fun c => !p c

/-- The text without the longest run of characters in `p` at its end. -/
def dropEndWhile (p : Char → Bool) : Text → Text
  | [] => []
  | c :: t =>
    match dropEndWhile p t with
    | [] => if p c then [] else [c]
    | rest => c :: rest

/-- Every occurrence of the character `old` replaced by `new`. -/
def replaceChar (old : Char) (new : Text) (t : Text) : Text :=
  t.flatMap fun c => if c = old then new else [c]

/-! ## Letters of ASCII -/

/-- The ASCII capitals made small; all else is kept. -/
def asciiLower (t : Text) : Text := t.map Char.toLower

/-- The small ASCII letters made capital; all else is kept. -/
def asciiUpper (t : Text) : Text := t.map Char.toUpper

example : splitAt? 1 ['é', 'a'] = none := by decide
example : slice? 2 3 ['é', 'a', 'b'] = some ['a'] := by decide
example : splitOn ',' ['a', ',', ','] = [['a'], [], []] := by decide
example : breakOn? ['b', 'c'] ['a', 'b', 'b', 'c', 'd'] = some (['a', 'b'], ['d']) := by decide

end Text

end Emend
