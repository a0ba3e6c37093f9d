import Emend.Proofs.Text.Encoding
import Emend.Proofs.Text.Places
/-!
# Cuts that are checked

A text is cut at offsets that have been worked out, and a cut where there is no place is a fault,
with the span that does not fit (`Checked.slice`, `Checked.cut`).

*Bytes.*  Offsets may be worked out without taking a text apart into characters: the characters that
matter are ASCII, so a scan may go over the bytes of the UTF-8 form.  It steps into the middle of
other characters on its way, but a byte of a character that is not ASCII is never taken for an ASCII
character (`Checked.byteIs_inside`).  So a scan that moves on by one byte wherever it does not stop
passes each character as a whole (`Checked.pass_inside`), and what it notes are places.
-/

namespace Emend.Checked

/-! ## Cuts -/

/-- The part of a text at a span that has to fit. -/
def slice (t : Text) (s : Span) : Except Span Text :=
  match Text.slice? s.start s.stop t with
  | some part => .ok part
  | none => .error s

/-- The two parts of a text at an offset that has to be a place. -/
def cut (n : Nat) (t : Text) : Except Span (Text × Text) :=
  match Text.splitAt? n t with
  | some parts => .ok parts
  | none => .error ⟨n, Text.size t⟩

theorem slice_ok {t : Text} {s : Span} (h : s.Fits t) : slice t s = .ok (s.text t) := by
  rw [slice, h.slice?]

/-- The slice at the span of a part is the part. -/
theorem slice_append (before part after : Text) :
    slice (before ++ part ++ after) ⟨Text.size before, Text.size before + Text.size part⟩ =
      .ok part := by
  rw [slice_ok (Span.fits_iff.2 ⟨before, part, after, rfl, rfl⟩), Span.text_append]

theorem slice_zero (part after : Text) :
    slice (part ++ after) ⟨0, Text.size part⟩ = .ok part := by
  have h := slice_append [] part after
  rwa [Text.size, Nat.zero_add, List.nil_append] at h

theorem cut_ok (before after : Text) :
    cut (Text.size before) (before ++ after) = .ok (before, after) := by
  rw [cut, Text.splitAt?_size]

/-! ## Bytes -/

/-- Whether an ASCII character stands at an offset, by the byte there. -/
def byteIs (t : Text) (n : Nat) (c : Char) : Bool :=
  (Utf8.encode t)[n]? == some (UInt8.ofNat c.toNat)

variable {c d : Char} {head t : Text}

/-- Of the bytes of a character, only the first one can be that of an ASCII character, and then
it is this character. -/
theorem byteIs_inside (hc : c.toNat < 0x80) {k : Nat} (hk : k < d.utf8Size) :
    byteIs (head ++ d :: t) (Text.size head + k) c = true ↔ k = 0 ∧ d = c := by
  rw [byteIs, Utf8.getElem?_encode head t hk, beq_iff_eq]
  constructor
  · intro heq
    obtain rfl : d = c := (Utf8.byte_mem_encodeChar hc).1 (List.mem_of_getElem? heq)
    have hone := Utf8.length_encodeChar d
    rw [Utf8.encodeChar_ascii hc, List.length_singleton] at hone
    exact ⟨by omega, rfl⟩
  · rintro ⟨rfl, rfl⟩
    rw [Utf8.encodeChar_ascii hc]
    rfl

/-- The byte at a place is that of the character there. -/
theorem byteIs_iff (hc : c.toNat < 0x80) (head t : Text) :
    byteIs (head ++ t) (Text.size head) c = true ↔ t.head? = some c := by
  cases t with
  | nil =>
      have hnone : (Utf8.encode (head ++ []))[Text.size head]? = none :=
        List.getElem?_eq_none (Nat.le_of_eq (by rw [List.append_nil, Utf8.length_encode]))
      rw [byteIs, hnone]
      simp
  | cons d t =>
      have h : byteIs (head ++ d :: t) (Text.size head + 0) c = true ↔ _ :=
        byteIs_inside hc d.utf8Size_pos
      rw [Nat.add_zero] at h
      simp [h]

theorem byteIs_cons (hc : c.toNat < 0x80) (head t : Text) :
    byteIs (head ++ d :: t) (Text.size head) c = decide (d = c) := by
  rw [Bool.eq_iff_iff, byteIs_iff hc]
  simp

/-- The byte behind a character of ASCII is that of the next one. -/
theorem byteIs_next (hc : c.toNat < 0x80) (hd : d.utf8Size = 1) (head t : Text) :
    byteIs (head ++ d :: t) (Text.size head + 1) c = decide (t.head? = some c) := by
  have hnext := byteIs_iff hc (head ++ [d]) t
  rw [Text.size_concat, hd, List.append_assoc, List.singleton_append] at hnext
  rw [Bool.eq_iff_iff, hnext, decide_eq_true_iff]

/-- The byte before a place is that of the character before it. -/
theorem byteIs_before (hc : c.toNat < 0x80) (head t : Text) (hne : head ≠ []) :
    byteIs (head ++ t) (Text.size head - 1) c = true ↔ head.getLast? = some c := by
  obtain ⟨front, d, rfl⟩ : ∃ front d, head = front ++ [d] :=
    ⟨_, _, (List.dropLast_concat_getLast hne).symm⟩
  have hpos := d.utf8Size_pos
  have hoffset : Text.size (front ++ [d]) - 1 = Text.size front + (d.utf8Size - 1) := by
    rw [Text.size_concat]
    omega
  rw [hoffset, List.append_assoc, List.singleton_append, byteIs_inside hc (by omega)]
  simp only [List.getLast?_append, List.getLast?_singleton, Option.some_or, Option.some.injEq]
  constructor
  · exact And.right
  · rintro rfl
    have hone := Utf8.length_encodeChar d
    rw [Utf8.encodeChar_ascii hc] at hone
    exact ⟨by simp at hone; omega, rfl⟩

theorem size_lt (head t : Text) {k : Nat} (hk : k < d.utf8Size) :
    Text.size head + k < Text.size (head ++ d :: t) := by
  rw [Text.size_append, Text.size]
  omega

/-- A scan that goes on to the next byte wherever there is none of some ASCII characters goes on to
the end of any other character, and so it does from inside of any character. -/
theorem pass_inside {α : Type} {f : Nat → α} (stops : List Char)
    (hascii : ∀ c ∈ stops, c.toNat < 0x80)
    (hnext : ∀ n, n < Text.size (head ++ d :: t) →
      (∀ c ∈ stops, byteIs (head ++ d :: t) n c = false) → f n = f (n + 1))
    {k : Nat} (hk : k ≤ d.utf8Size) (hstart : 0 < k ∨ d ∉ stops) :
    f (Text.size head + k) = f (Text.size (head ++ [d])) := by
  obtain ⟨left, hleft⟩ := Nat.le.dest hk
  induction left generalizing k with
  | zero => rw [Text.size_concat, ← hleft, Nat.add_zero]
  | succ left ih =>
      have hinside : k < d.utf8Size := by omega
      have hnone : ∀ c ∈ stops, byteIs (head ++ d :: t) (Text.size head + k) c = false := by
        intro c hc
        rw [← Bool.not_eq_true, byteIs_inside (hascii c hc) hinside]
        rintro ⟨rfl, rfl⟩
        exact hstart.elim (Nat.lt_irrefl 0) fun hd => hd hc
      rw [hnext _ (size_lt head t hinside) hnone]
      exact ih (by omega) (.inl (Nat.succ_pos k)) (by omega)

end Emend.Checked
