import Mathlib.Data.Nat.Digits.Defs
import Emend.Decimal.Reading
import Emend.Proofs.Text.Blanks
/-!
# Written numbers

The digits of a count are read as that count (`digits?_ofNat`), in each range that has it.  What
is read as a count is digits, perhaps after a plus sign (`count?_eq_some_iff`).
What is read as a number, with digits, a point and an exponent or as a word, is written in
characters that are neither blanks nor backticks (`all_of_float?`).
-/

namespace Emend

namespace Text

/-! ## Digits -/

theorem isDigit_iff {c : Char} : c.isDigit ↔ '0' ≤ c ∧ c ≤ '9' := by
  simp [Char.isDigit, Char.le_def]

theorem digitsValue?_of_isDigit {t : Text} (h : ∀ c ∈ t, c.isDigit) (value : Nat) :
    digitsValue? value t = some (Nat.ofDigitChars 10 t value) := by
  induction t generalizing value with
  | nil => simp [digitsValue?]
  | cons c t ih =>
      have hc := isDigit_iff.1 (h c List.mem_cons_self)
      rw [digitsValue?, if_pos hc, ih fun d hd => h d (List.mem_cons_of_mem _ hd)]
      rfl

theorem isDigit_of_digitsValue? {t : Text} {value n : Nat} (h : digitsValue? value t = some n) :
    ∀ c ∈ t, c.isDigit := by
  induction t generalizing value with
  | nil => simp
  | cons c t ih =>
      rw [digitsValue?] at h
      split at h
      · next hc => exact List.forall_mem_cons.2 ⟨isDigit_iff.2 hc, ih h⟩
      · cases h

theorem isDigit_of_digits? {t : Text} {n : Nat} (h : digits? t = some n) : ∀ c ∈ t, c.isDigit := by
  cases t with
  | nil => cases h
  | cons c t => exact isDigit_of_digitsValue? h

/-- Digits that write a number. -/
structure WritesNat (t : Text) (n : Nat) : Prop where
  /-- There is one. -/
  nonempty : t ≠ []
  /-- All are digits of ASCII. -/
  digits : ∀ c ∈ t, c.isDigit
  /-- Their value is the number. -/
  value : Nat.ofDigitChars 10 t 0 = n

theorem digits?_eq_some_iff {t : Text} {n : Nat} : digits? t = some n ↔ WritesNat t n := by
  constructor
  · intro h
    have hdigits := isDigit_of_digits? h
    cases t with
    | nil => cases h
    | cons c t =>
        rw [digits?, digitsValue?_of_isDigit hdigits, Option.some.injEq] at h
        exact ⟨List.cons_ne_nil _ _, hdigits, h⟩
  · intro h
    cases t with
    | nil => exact absurd rfl h.nonempty
    | cons c t => rw [digits?, digitsValue?_of_isDigit h.digits, h.value]

theorem ofNat_eq_toDigits (n : Nat) : ofNat n = Nat.toDigits 10 n := by
  simp [ofNat, Nat.repr_eq_ofList_toDigits]

theorem isDigit_of_mem_ofNat {n : Nat} {c : Char} (h : c ∈ ofNat n) : c.isDigit :=
  Nat.isDigit_of_mem_toDigits (by decide) (by decide) (ofNat_eq_toDigits n ▸ h)

theorem digits?_ofNat (n : Nat) : digits? (ofNat n) = some n := by
  have hvalue := digitsValue?_of_isDigit (t := ofNat n) (fun c hc => isDigit_of_mem_ofNat hc) 0
  rw [ofNat_eq_toDigits, Nat.ofDigitChars_toDigits (by decide) (by decide)] at hvalue
  rw [ofNat_eq_toDigits]
  cases hdigits : Nat.toDigits 10 n with
  | nil => simp at hdigits
  | cons c t => rwa [hdigits] at hvalue

/-! ## Numbers -/

theorem ofNat_ne_cons {n : Nat} {c : Char} (hc : c.isDigit = false) (t : Text) :
    ofNat n ≠ c :: t := by
  intro h
  have hdigit := isDigit_of_mem_ofNat (n := n) (c := c) (h ▸ List.mem_cons_self)
  rw [hc] at hdigit
  cases hdigit

theorem count?_ofNat {n : Nat} (h : n ≤ maxCount) : count? (ofNat n) = some n := by
  unfold count?
  split
  · next hplus => exact absurd hplus (ofNat_ne_cons rfl _)
  · simp [digits?_ofNat, h]

theorem int32?_ofNat {n : Nat} (h : n ≤ 0x7FFFFFFF) : int32? (ofNat n) = some (n : Int) := by
  unfold int32?
  split
  · next hplus => exact absurd hplus (ofNat_ne_cons rfl _)
  · next hminus => exact absurd hminus (ofNat_ne_cons rfl _)
  · simp [digits?_ofNat]
    omega

/-! ## Characters of values -/

/-- A character of a written number, of a word or of a name. -/
def isValueChar (c : Char) : Bool :=
  c.isAlphanum || c == '_' || c == '+' || c == '-' || c == '.'

theorem isValueChar_of_isDigit {c : Char} (h : c.isDigit) : isValueChar c := by
  simp [isValueChar, Char.isAlphanum, h]

theorem not_isBlank_of_isValueChar {c : Char} (h : isValueChar c) : ¬ isBlank c := by
  simp only [isValueChar, Bool.or_eq_true, beq_iff_eq] at h
  rcases h with (((h | rfl) | rfl) | rfl) | rfl
  · exact not_isBlank_of_isAlphanum h
  all_goals decide

theorem solid_of_isValueChar {t : Text} (h : t.all isValueChar) : Solid t :=
  fun c hc => not_isBlank_of_isValueChar (List.all_eq_true.1 h c hc)

/-! ## Counts -/

/-- A number that fits in 64 bits, written with digits and perhaps a plus sign before them. -/
structure WritesCount (t : Text) (n : Nat) : Prop where
  /-- The digits write the number. -/
  written : WritesNat t n ∨ ∃ digits, t = '+' :: digits ∧ WritesNat digits n
  /-- The number fits. -/
  fits : n < 2 ^ 64

theorem count?_eq_some_iff {t : Text} {n : Nat} : count? t = some n ↔ WritesCount t n := by
  have hguard : ∀ digits : Text, ((digits? digits).bind fun k =>
      if k ≤ maxCount then some k else none) = some n ↔ WritesNat digits n ∧ n < 2 ^ 64 := by
    intro digits
    have hfits : n ≤ maxCount ↔ n < 2 ^ 64 := by
      rw [maxCount]
      omega
    rw [← digits?_eq_some_iff, ← hfits]
    cases digits? digits with
    | none => simp
    | some k =>
        rw [Option.bind_some, Option.ite_none_right_eq_some, and_comm, Option.some.injEq,
          and_congr_right_iff]
        rintro rfl
        rfl
  unfold count?
  split
  · next digits =>
    refine (hguard digits).trans ⟨fun ⟨hdigits, hn⟩ => ⟨.inr ⟨digits, rfl, hdigits⟩, hn⟩, ?_⟩
    rintro ⟨hplain | ⟨digits', heq, hdigits⟩, hn⟩
    · exact absurd (hplain.digits '+' List.mem_cons_self) (by decide)
    · cases heq
      exact ⟨hdigits, hn⟩
  · next hplus =>
    refine (hguard t).trans ⟨fun ⟨hdigits, hn⟩ => ⟨.inl hdigits, hn⟩, ?_⟩
    rintro ⟨hplain | ⟨digits, heq, hdigits⟩, hn⟩
    · exact ⟨hplain, hn⟩
    · exact absurd heq (hplus digits)

namespace WritesCount

variable {t : Text} {n : Nat} {c : Char} (h : WritesCount t n)

include h

theorem mem (hc : c ∈ t) : c = '+' ∨ c.isDigit := by
  rcases h.written with hplain | ⟨digits, rfl, hdigits⟩
  · exact .inr (hplain.digits c hc)
  · rcases List.mem_cons.1 hc with rfl | hc
    · exact .inl rfl
    · exact .inr (hdigits.digits c hc)

theorem solid : Solid t := by
  intro c hc
  rcases h.mem hc with rfl | hdigit
  · decide
  · exact not_isBlank_of_isValueChar (isValueChar_of_isDigit hdigit)

theorem dash_not_mem : '-' ∉ t := by
  intro hdash
  rcases h.mem hdash with heq | hdigit
  · cases heq
  · cases hdigit

end WritesCount

/-! ## Values -/

theorem all_ofNat (n : Nat) : (ofNat n).all isValueChar :=
  List.all_eq_true.2 fun _ hc => isValueChar_of_isDigit (isDigit_of_mem_ofNat hc)

theorem all_of_digits? {t : Text} {n : Nat} (h : digits? t = some n) : t.all isValueChar :=
  List.all_eq_true.2 fun c hc => isValueChar_of_isDigit (isDigit_of_digits? h c hc)

theorem isAlphanum_of_toLower {c : Char} (h : c.toLower.isAlphanum) : c.isAlphanum := by
  unfold Char.toLower at h
  split at h
  · next hupper => exact isAlphanum_iff.2 (.inl (isAlpha_iff.2 (.inl (isUpper_iff.2 hupper))))
  · exact h

theorem all_of_asciiLower {t word : Text} (h : asciiLower t = word)
    (hword : word.all Char.isAlphanum) : t.all isValueChar := by
  subst h
  refine List.all_eq_true.2 fun c hc => ?_
  have hlower := List.all_eq_true.1 hword c.toLower (List.mem_map_of_mem hc)
  simp [isValueChar, isAlphanum_of_toLower hlower]

end Text

namespace Decimal

open Text

theorem all_of_splitSign {t : Text} (h : (splitSign t).2.all isValueChar) : t.all isValueChar := by
  unfold splitSign at h
  split at h
  · rw [List.all_cons, h]; rfl
  · rw [List.all_cons, h]; rfl
  · exact h

theorem all_of_splitDigits {t : Text} (h : (splitDigits t).2.all isValueChar) :
    t.all isValueChar := by
  have hdigits : (splitDigits t).1.all isValueChar := by
    refine List.all_eq_true.2 fun c hc => isValueChar_of_isDigit ?_
    exact List.mem_takeWhile_imp hc
  have happend : (splitDigits t).1 ++ (splitDigits t).2 = t := List.takeWhile_append_dropWhile
  rw [← happend, List.all_append, hdigits, h]
  rfl

theorem all_of_exponent? {t : Text} {n : Int} (h : exponent? t = some n) : t.all isValueChar := by
  unfold exponent? at h
  split at h
  · rfl
  · next e t =>
    split at h
    · next he =>
      obtain ⟨m, hm, -⟩ := Option.map_eq_some_iff.1 h
      obtain ⟨k, hdigits, -⟩ := Option.bind_eq_some_iff.1 hm
      have hall := all_of_splitSign (t := t) (all_of_digits? hdigits)
      rw [List.all_cons, hall]
      rcases he with rfl | rfl <;> rfl
    · cases h

theorem all_of_scientific? {t : Text} {s : Scientific} (h : scientific? t = some s) :
    t.all isValueChar := by
  apply all_of_splitSign
  apply all_of_splitDigits
  unfold scientific? at h
  simp only [Option.bind_eq_bind, Option.bind_eq_some_iff] at h
  obtain ⟨digits, -, exponent, hexponent, -⟩ := h
  split at hexponent
  · next rest heq =>
    rw [heq, List.all_cons, all_of_splitDigits (all_of_exponent? hexponent)]
    rfl
  · exact all_of_exponent? hexponent

/-- What is read as a number has neither blanks nor backticks. -/
theorem all_of_float? {t : Text} {x : Float} (h : float? t = some x) : t.all isValueChar := by
  unfold float? at h
  simp only at h
  split at h
  · next hword =>
    rcases hword with hword | hword
    · exact all_of_splitSign (all_of_asciiLower hword rfl)
    · exact all_of_splitSign (all_of_asciiLower hword rfl)
  · split at h
    · next hword => exact all_of_splitSign (all_of_asciiLower hword rfl)
    · obtain ⟨s, hs, -⟩ := Option.map_eq_some_iff.1 h
      exact all_of_scientific? hs

end Decimal

end Emend
