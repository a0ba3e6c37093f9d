import Emend.Text.Basic
/-!
# Texts as bytes

A text is kept in a file as its UTF-8 form.  Reading a file back, the bytes are
taken character by character.  Bytes that are the form of no text are told by
the offset of the first character that is none, and by how many bytes from
there on could still have been the start of one; at the end of the bytes, it is
said instead that the character is incomplete.

`decode_encode`: what is written is read back.
-/

namespace Emend

/-- The bytes of a file. -/
abbrev Bytes := List UInt8

namespace Utf8

/-- A byte after the first one: it holds the last six binary digits of a number. -/
def trail (n : Nat) : UInt8 := UInt8.ofNat (0x80 + n % 64)

/-- The form of a character. -/
def encodeChar (c : Char) : Bytes :=
  let n := c.toNat
  if n < 0x80 then [UInt8.ofNat n]
  else if n < 0x800 then [UInt8.ofNat (0xC0 + n / 64), trail n]
  else if n < 0x10000 then [UInt8.ofNat (0xE0 + n / 4096), trail (n / 64), trail n]
  else [UInt8.ofNat (0xF0 + n / 262144), trail (n / 4096), trail (n / 64), trail n]

/-- The form of a text. -/
def encode (t : Text) : Bytes := t.flatMap encodeChar

/-- Why bytes are the form of no text. -/
structure DecodeError where
  /-- The offset of the first character that is none. -/
  offset : Nat
  /-- The number of bytes from there on that cannot be a character; none if the
  bytes end before it is complete. -/
  length : Option Nat
  deriving DecidableEq, Repr

/-- What is said about bytes that are the form of no text. -/
def DecodeError.message (e : DecodeError) : String :=
  match e.length with
  | some n => s!"invalid utf-8 sequence of {n} bytes from index {e.offset}"
  | none => s!"incomplete utf-8 byte sequence from index {e.offset}"

/-- What may follow the first byte of a character: the range of the second byte,
and how many bytes come after that one. -/
def leadForm? (b : Nat) : Option (Nat × Nat × Nat) :=
  if 0xC2 ≤ b ∧ b ≤ 0xDF then some (0x80, 0xBF, 0)
  else if b = 0xE0 then some (0xA0, 0xBF, 1)
  else if b = 0xED then some (0x80, 0x9F, 1)
  else if 0xE1 ≤ b ∧ b ≤ 0xEF then some (0x80, 0xBF, 1)
  else if b = 0xF0 then some (0x90, 0xBF, 2)
  else if 0xF1 ≤ b ∧ b ≤ 0xF3 then some (0x80, 0xBF, 2)
  else if b = 0xF4 then some (0x80, 0x8F, 2)
  else none

/-- Reads so many more bytes of a character of which `taken` bytes with the
value `n` are read. -/
def trailing (n taken : Nat) : Nat → Bytes → Except (Option Nat) (Nat × Bytes)
  | 0, bytes => .ok (n, bytes)
  | _ + 1, [] => .error none
  | more + 1, b :: bytes =>
    if 0x80 ≤ b.toNat ∧ b.toNat ≤ 0xBF then
      trailing (64 * n + (b.toNat - 0x80)) (taken + 1) more bytes
    else .error (some taken)

/-- The value of the first byte of a character, of which `more + 1` bytes
follow. -/
def leadValue (b more : Nat) : Nat :=
  match more with
  | 0 => b - 0xC0
  | 1 => b - 0xE0
  | _ => b - 0xF0

/-- The first character of bytes that start with `b`, and the bytes after it. -/
def decodeChar (b : UInt8) (bytes : Bytes) : Except (Option Nat) (Nat × Bytes) :=
  if b.toNat < 0x80 then .ok (b.toNat, bytes)
  else match leadForm? b.toNat with
    | none => .error (some 1)
    | some (low, high, more) =>
      match bytes with
      | [] => .error none
      | b2 :: bytes =>
        if low ≤ b2.toNat ∧ b2.toNat ≤ high then
          trailing (64 * leadValue b.toNat more + (b2.toNat - 0x80)) 2 more bytes
        else .error (some 1)

theorem trailing_length {n taken more : Nat} {bytes rest : Bytes} {v : Nat}
    (h : trailing n taken more bytes = .ok (v, rest)) : rest.length ≤ bytes.length := by
  induction more generalizing n taken bytes with
  | zero => simp only [trailing, Except.ok.injEq, Prod.mk.injEq] at h; simp [h.2]
  | succ more ih =>
      cases bytes with
      | nil => simp [trailing] at h
      | cons b bytes =>
          simp only [trailing] at h
          split at h
          · have := ih h
            simp only [List.length_cons]; omega
          · simp at h

theorem decodeChar_length {b : UInt8} {bytes rest : Bytes} {v : Nat}
    (h : decodeChar b bytes = .ok (v, rest)) : rest.length < (b :: bytes).length := by
  unfold decodeChar at h
  split at h
  · simp only [Except.ok.injEq, Prod.mk.injEq] at h; simp [h.2]
  · split at h
    · simp at h
    · split at h
      · simp at h
      · split at h
        · have := trailing_length h
          simp only [List.length_cons]; omega
        · simp at h

/-- The text of which the bytes from the given offset on are the form. -/
def decodeFrom (offset : Nat) (bytes : Bytes) : Except DecodeError Text :=
  match bytes with
  | [] => .ok []
  | b :: bytes =>
    match h : decodeChar b bytes with
    | .error length => .error ⟨offset, length⟩
    | .ok (n, rest) =>
      have := decodeChar_length h
      (decodeFrom (offset + ((b :: bytes).length - rest.length)) rest).map (Char.ofNat n :: ·)
termination_by bytes.length
decreasing_by exact this

/-- The text of which the bytes are the form. -/
def decode (bytes : Bytes) : Except DecodeError Text := decodeFrom 0 bytes

/-! ## Reading back -/

theorem length_encodeChar (c : Char) : (encodeChar c).length = c.utf8Size := by
  have h : c.toNat = c.val.toNat := rfl
  simp only [encodeChar, Char.utf8Size, UInt32.le_iff_toNat_le, UInt32.toNat_ofNatLT, h]
  repeat' split
  all_goals first | rfl | omega

/-- A text has the size of its form. -/
theorem length_encode (t : Text) : (encode t).length = Text.size t := by
  induction t with
  | nil => rfl
  | cons c t ih =>
      rw [encode] at ih
      simp only [encode, List.flatMap_cons, List.length_append, ih, length_encodeChar, Text.size]

theorem toNat_ofNat {n : Nat} (h : n < 256) : (UInt8.ofNat n).toNat = n := by
  simp only [UInt8.toNat_ofNat']; omega

theorem toNat_trail (n : Nat) : (trail n).toNat = 0x80 + n % 64 := toNat_ofNat (by omega)

/-- A byte after the first two of a character is read. -/
theorem trailing_trail (n taken more k : Nat) (bytes : Bytes) :
    trailing n taken (more + 1) (trail k :: bytes) =
      trailing (64 * n + k % 64) (taken + 1) more bytes := by
  simp only [trailing, toNat_trail]
  rw [if_pos (by omega), Nat.add_sub_cancel_left]

theorem trailing_zero (n taken : Nat) (bytes : Bytes) :
    trailing n taken 0 bytes = .ok (n, bytes) := rfl

/-- The first two bytes of a character are read. -/
theorem decodeChar_trail {b : UInt8} {k low high more : Nat} (hb : 0x80 ≤ b.toNat)
    (hform : leadForm? b.toNat = some (low, high, more)) (hlow : low ≤ 0x80 + k % 64)
    (hhigh : 0x80 + k % 64 ≤ high) (bytes : Bytes) :
    decodeChar b (trail k :: bytes) =
      trailing (64 * leadValue b.toNat more + k % 64) 2 more bytes := by
  simp only [decodeChar, hform, toNat_trail]
  rw [if_neg (by omega), if_pos ⟨hlow, hhigh⟩, Nat.add_sub_cancel_left]

/-- The lead of two bytes. -/
theorem leadForm?_two {b : Nat} (h : 0xC2 ≤ b ∧ b ≤ 0xDF) :
    leadForm? b = some (0x80, 0xBF, 0) := if_pos h

/-- The lead of three bytes. -/
theorem leadForm?_three {b : Nat} (h : 0xE0 ≤ b ∧ b ≤ 0xEF) : leadForm? b =
    some (if b = 0xE0 then 0xA0 else 0x80, if b = 0xED then 0x9F else 0xBF, 1) := by
  unfold leadForm?
  grind

/-- The lead of four bytes. -/
theorem leadForm?_four {b : Nat} (h : 0xF0 ≤ b ∧ b ≤ 0xF4) : leadForm? b =
    some (if b = 0xF0 then 0x90 else 0x80, if b = 0xF4 then 0x8F else 0xBF, 2) := by
  unfold leadForm?
  grind

/-- The form of a character is not empty, and the character is read from it. -/
theorem decodeChar_encodeChar (c : Char) : ∃ b bytes, encodeChar c = b :: bytes ∧
    ∀ rest, decodeChar b (bytes ++ rest) = .ok (c.toNat, rest) := by
  have hv : c.toNat < 0xD800 ∨ 0xDFFF < c.toNat ∧ c.toNat < 0x110000 := c.valid
  simp only [encodeChar]
  generalize c.toNat = n at hv
  by_cases h1 : n < 0x80
  · rw [if_pos h1]
    refine ⟨_, _, rfl, fun rest => ?_⟩
    simp only [decodeChar, toNat_ofNat (show n < 256 by omega), if_pos h1, List.nil_append]
  rw [if_neg h1]
  by_cases h2 : n < 0x800
  · have hb : (UInt8.ofNat (0xC0 + n / 64)).toNat = 0xC0 + n / 64 := toNat_ofNat (by omega)
    rw [if_pos h2]
    refine ⟨_, _, rfl, fun rest => ?_⟩
    have hd := decodeChar_trail (b := UInt8.ofNat (0xC0 + n / 64)) (k := n) (by omega)
      (leadForm?_two (by omega)) (by omega) (by omega) rest
    rw [List.cons_append, List.nil_append, hd, hb]
    have hl : leadValue (0xC0 + n / 64) 0 = n / 64 := Nat.add_sub_cancel_left _ _
    have hn : 64 * (n / 64) + n % 64 = n := by omega
    rw [hl, trailing_zero, hn]
  rw [if_neg h2]
  by_cases h3 : n < 0x10000
  · have hb : (UInt8.ofNat (0xE0 + n / 4096)).toNat = 0xE0 + n / 4096 := toNat_ofNat (by omega)
    rw [if_pos h3]
    refine ⟨_, _, rfl, fun rest => ?_⟩
    have hd := decodeChar_trail (b := UInt8.ofNat (0xE0 + n / 4096)) (k := n / 64) (by omega)
      (leadForm?_three (by omega)) (by split <;> omega) (by split <;> omega) (trail n :: rest)
    rw [List.cons_append, List.cons_append, List.nil_append, hd, trailing_trail, hb]
    have hl : leadValue (0xE0 + n / 4096) 1 = n / 4096 := Nat.add_sub_cancel_left _ _
    have hn : 64 * (64 * (n / 4096) + n / 64 % 64) + n % 64 = n := by omega
    rw [hl, trailing_zero, hn]
  · have hb : (UInt8.ofNat (0xF0 + n / 262144)).toNat = 0xF0 + n / 262144 := toNat_ofNat (by omega)
    rw [if_neg h3]
    refine ⟨_, _, rfl, fun rest => ?_⟩
    have hd := decodeChar_trail (b := UInt8.ofNat (0xF0 + n / 262144)) (k := n / 4096) (by omega)
      (leadForm?_four (by omega)) (by split <;> omega) (by split <;> omega)
      (trail (n / 64) :: trail n :: rest)
    rw [List.cons_append, List.cons_append, List.cons_append, List.nil_append, hd,
      trailing_trail, trailing_trail, hb]
    have hl : leadValue (0xF0 + n / 262144) 2 = n / 262144 := Nat.add_sub_cancel_left _ _
    have hn : 64 * (64 * (64 * (n / 262144) + n / 4096 % 64) + n / 64 % 64) + n % 64 = n := by omega
    rw [hl, trailing_zero, hn]

theorem decodeFrom_encode (offset : Nat) (t : Text) : decodeFrom offset (encode t) = .ok t := by
  induction t generalizing offset with
  | nil => simp [encode, decodeFrom]
  | cons c t ih =>
      obtain ⟨b, bytes, hb, hc⟩ := decodeChar_encodeChar c
      have he : encode (c :: t) = b :: (bytes ++ encode t) := by
        simp only [encode, List.flatMap_cons, hb, List.cons_append]
      rw [he, decodeFrom]
      split
      · next h => rw [hc] at h; cases h
      · next n rest h =>
        rw [hc] at h
        cases h
        rw [ih]
        simp [Except.map]

/-- What is written is read back. -/
theorem decode_encode (t : Text) : decode (encode t) = .ok t := decodeFrom_encode 0 t

end Utf8

end Emend
