import Emend.Bytes.Utf8
/-!
# The bytes of texts

The form of a text is made of the forms of its parts (`encode_append`).

*Characters.*  A character that is not ASCII has no byte of an ASCII character
(`le_of_mem_encodeChar`), so the byte of one is found in no other character
(`byte_mem_encodeChar`), and only its first byte is no trailing one (`exists_encodeChar`).

*Parts.*  So where the form of a text has the form of another one, that is not empty, the text has
the other one (`encode_isPrefix_drop`), and where it has the byte of an ASCII character, the text has
the character (`exists_of_byte`).
-/

namespace Emend

namespace Utf8

variable {c d : Char} {a b t : Text} {n : Nat}

theorem encode_append (a b : Text) : encode (a ++ b) = encode a ++ encode b :=
  List.flatMap_append

theorem encode_cons (c : Char) (t : Text) : encode (c :: t) = encodeChar c ++ encode t :=
  List.flatMap_cons

/-- A byte that is not the first one of a character. -/
def IsTrailing (b : UInt8) : Prop := 0x80 ≤ b.toNat ∧ b.toNat < 0xC0

theorem isTrailing_trail (n : Nat) : IsTrailing (trail n) := by
  rw [IsTrailing, toNat_trail]
  omega

/-- The first byte of a character is a small one if the character is ASCII, and a large one if it is
not; the other bytes are in between. -/
theorem exists_encodeChar (c : Char) : ∃ b trails, encodeChar c = b :: trails ∧
    (c.toNat < 0x80 ∧ b.toNat = c.toNat ∨ ¬ c.toNat < 0x80 ∧ 0xC0 ≤ b.toNat) ∧
      ∀ b ∈ trails, IsTrailing b := by
  have hlimit : c.toNat < 0x110000 := by
    have hv : c.toNat < 0xD800 ∨ 0xDFFF < c.toNat ∧ c.toNat < 0x110000 := c.valid
    omega
  have hlead : ∀ n, n < 256 → 0xC0 ≤ n → 0xC0 ≤ (UInt8.ofNat n).toNat := fun n hn hle => by
    rwa [toNat_ofNat hn]
  simp only [encodeChar]
  split
  · next h => exact ⟨_, _, rfl, .inl ⟨h, toNat_ofNat (by omega)⟩, by simp⟩
  next h =>
  split
  · exact ⟨_, _, rfl, .inr ⟨h, hlead _ (by omega) (by omega)⟩, by simp [isTrailing_trail]⟩
  split
  · exact ⟨_, _, rfl, .inr ⟨h, hlead _ (by omega) (by omega)⟩, by simp [isTrailing_trail]⟩
  · exact ⟨_, _, rfl, .inr ⟨h, hlead _ (by omega) (by omega)⟩, by simp [isTrailing_trail]⟩

theorem encodeChar_ascii (h : c.toNat < 0x80) : encodeChar c = [UInt8.ofNat c.toNat] := if_pos h

/-- No byte of a character that is not ASCII is that of an ASCII character. -/
theorem le_of_mem_encodeChar (h : ¬ c.toNat < 0x80) {b : UInt8} (hb : b ∈ encodeChar c) :
    0x80 ≤ b.toNat := by
  obtain ⟨first, trails, heq, hfirst, htrails⟩ := exists_encodeChar c
  rw [heq] at hb
  rcases List.mem_cons.1 hb with rfl | hb
  · have hle := (hfirst.resolve_left fun hascii => h hascii.1).2
    omega
  · exact (htrails b hb).1

/-- The byte of an ASCII character. -/
def byte (c : Char) : UInt8 := UInt8.ofNat c.toNat

/-- Only an ASCII character has its byte. -/
theorem byte_mem_encodeChar (hc : c.toNat < 0x80) : byte c ∈ encodeChar d ↔ d = c := by
  have hbyte : (byte c).toNat = c.toNat := toNat_ofNat (by omega)
  constructor
  · intro hmem
    by_cases hd : d.toNat < 0x80
    · rw [encodeChar_ascii hd, List.mem_singleton] at hmem
      rw [hmem, toNat_ofNat (by omega)] at hbyte
      exact Char.toNat_inj.1 hbyte
    · have hle := le_of_mem_encodeChar hd hmem
      omega
  · rintro rfl
    rw [encodeChar_ascii hc]
    exact List.mem_singleton_self _

/-- The bytes of a character in a text. -/
theorem getElem?_encode (head t : Text) {k : Nat} (hk : k < c.utf8Size) :
    (encode (head ++ c :: t))[Text.size head + k]? = (encodeChar c)[k]? := by
  rw [encode_append, ← length_encode, List.getElem?_append_right (Nat.le_add_right _ _),
    Nat.add_sub_cancel_left]
  exact List.getElem?_append_left (by rwa [length_encodeChar])

/-! ## Parts of texts -/

theorem drop_encode_size (before after : Text) :
    (encode (before ++ after)).drop (Text.size before) = encode after := by
  rw [encode_append, ← length_encode, List.drop_left]

/-- A form starts with the form of a text if the text starts with that text. -/
theorem encode_isPrefix_iff : encode a <+: encode b ↔ a <+: b := by
  constructor
  · intro h
    induction a generalizing b with
    | nil => exact List.nil_prefix
    | cons c a ih =>
        obtain ⟨first, bytes, heq, hread⟩ := decodeChar_encodeChar c
        obtain ⟨rest, hrest⟩ := h
        rw [encode_cons, heq, List.cons_append, List.cons_append, List.append_assoc] at hrest
        cases b with
        | nil => cases hrest
        | cons d b =>
            obtain ⟨first', bytes', heq', hread'⟩ := decodeChar_encodeChar d
            rw [encode_cons, heq', List.cons_append] at hrest
            injection hrest with hfirst hbytes
            -- Both characters are read from the same bytes.
            have hsame := hread (encode a ++ rest)
            rw [hfirst, hbytes, hread'] at hsame
            injection hsame with hsame
            injection hsame with hchar hafter
            rw [Char.toNat_inj.1 hchar]
            exact List.cons_prefix_cons.2 ⟨rfl, ih ⟨rest, hafter.symm⟩⟩
  · rintro ⟨rest, rfl⟩
    rw [encode_append]
    exact List.prefix_append _ _

/-- Where the form of a text is cut, the text is cut, or the next byte is a trailing one. -/
theorem drop_encode (h : n < (encode t).length) :
    (∃ before rest, before ++ rest = t ∧ Text.size before = n ∧
      (encode t).drop n = encode rest) ∨
    ∃ b bytes, (encode t).drop n = b :: bytes ∧ IsTrailing b := by
  induction t generalizing n with
  | nil => cases h
  | cons c t ih =>
      rw [encode_cons] at h ⊢
      by_cases hn : n < (encodeChar c).length
      · cases n with
        | zero => exact .inl ⟨[], c :: t, rfl, rfl, by rw [encode_cons]; rfl⟩
        | succ n =>
            obtain ⟨first, trails, heq, -, htrails⟩ := exists_encodeChar c
            rw [heq] at hn ⊢
            have hlt : n < trails.length := Nat.lt_of_succ_lt_succ hn
            refine .inr ⟨trails[n], trails.drop (n + 1) ++ encode t, ?_,
              htrails _ (List.getElem_mem hlt)⟩
            rw [List.cons_append, List.drop_succ_cons,
              List.drop_append_of_le_length (Nat.le_of_lt hlt), List.drop_eq_getElem_cons hlt,
              List.cons_append]
      · have hle := Nat.le_of_not_lt hn
        rw [List.length_append] at h
        rw [List.drop_append, List.drop_eq_nil_of_le hle, List.nil_append]
        rcases ih (show n - (encodeChar c).length < _ by omega) with
          ⟨before, rest, rfl, hsize, hdrop⟩ | htrailing
        · refine .inl ⟨c :: before, rest, rfl, ?_, hdrop⟩
          rw [Text.size, hsize, ← length_encodeChar]
          omega
        · exact .inr htrailing

/-- Where the form of a text has the form of another one that is not empty, the text has the other
one. -/
theorem encode_isPrefix_drop (hne : a ≠ []) : encode a <+: (encode t).drop n ↔
    ∃ before, before ++ a <+: t ∧ Text.size before = n := by
  constructor
  · intro h
    obtain ⟨c, a, rfl⟩ := List.exists_cons_of_ne_nil hne
    obtain ⟨first, trails, heq, hfirst, -⟩ := exists_encodeChar c
    obtain ⟨bytes, hbytes⟩ := h
    rw [encode_cons, heq, List.cons_append, List.cons_append] at hbytes
    have hlt : n < (encode t).length := by
      refine Nat.lt_of_not_le fun hle => ?_
      rw [List.drop_eq_nil_of_le hle] at hbytes
      cases hbytes
    rcases drop_encode hlt with ⟨before, rest, rfl, hsize, hdrop⟩ | ⟨b, more, hdrop, htrailing⟩
    · refine ⟨before, (List.prefix_append_right_inj _).2 (encode_isPrefix_iff.1 ⟨bytes, ?_⟩), hsize⟩
      rw [← hdrop, ← hbytes, encode_cons, heq, List.cons_append, List.cons_append]
    · rw [hdrop] at hbytes
      injection hbytes with hb
      rw [← hb, IsTrailing] at htrailing
      omega
  · rintro ⟨before, ⟨rest, rfl⟩, rfl⟩
    rw [List.append_assoc, drop_encode_size, encode_append]
    exact List.prefix_append _ _

/-- Where the form of a text has the byte of an ASCII character, the text has the character. -/
theorem exists_of_byte (hc : c.toNat < 0x80) (h : (encode t)[n]? = some (byte c)) :
    ∃ before after, t = before ++ c :: after ∧ Text.size before = n := by
  have hprefix : encode [c] <+: (encode t).drop n := by
    have hform : encode [c] = [byte c] := by
      rw [encode, List.flatMap_singleton, encodeChar_ascii hc]
      rfl
    obtain ⟨hlt, hget⟩ := List.getElem?_eq_some_iff.1 h
    rw [hform, List.drop_eq_getElem_cons hlt, hget]
    exact ⟨_, rfl⟩
  obtain ⟨before, ⟨after, ht⟩, hsize⟩ := (encode_isPrefix_drop (by simp)).1 hprefix
  exact ⟨before, after, by rw [← ht, List.append_assoc, List.singleton_append], hsize⟩

end Utf8

end Emend
