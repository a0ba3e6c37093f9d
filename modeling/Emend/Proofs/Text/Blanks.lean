import Mathlib.Data.List.DropRight
import Emend.Proofs.Text.LineSpans
import Emend.Text.Blank
/-!
# Trimmed texts

What does not end in a blank is kept whatever blanks follow it (`trimEnd_append`), so
trimming a line leaves what leads it and trims the rest (`trim_append`).  A text is what is left
of it and blanks around that (`Padded`, `padded_trim`), so the characters that are no blanks are the
same in both (`dropBlanks_trim`).  A text without blanks is trimmed (`trim_of_solid`).
-/

namespace Emend

namespace Text

/-! ## Ends of texts -/

theorem dropEndWhile_eq_rdropWhile (p : Char → Bool) (t : Text) :
    dropEndWhile p t = t.rdropWhile p := by
  induction t using List.reverseRecOn with
  | nil => rfl
  | append_singleton t c ih =>
      suffices dropEndWhile p (t ++ [c]) = if p c then dropEndWhile p t else t ++ [c] by
        rw [this, List.rdropWhile_concat, ih]
      clear ih
      induction t with
      | nil => simp [dropEndWhile]
      | cons d t ih =>
          rw [List.cons_append, dropEndWhile, ih]
          by_cases hc : p c
          · simp [hc, dropEndWhile]
          · cases t <;> simp [hc]

theorem dropEndWhile_concat {p : Char → Bool} {c : Char} (hc : p c) (t : Text) :
    dropEndWhile p (t ++ [c]) = dropEndWhile p t := by
  rw [dropEndWhile_eq_rdropWhile, List.rdropWhile_concat_pos _ _ _ hc,
    dropEndWhile_eq_rdropWhile]

theorem dropEndWhile_eq_self {p : Char → Bool} {t : Text} (h : ∀ c, t.getLast? = some c → ¬ p c) :
    dropEndWhile p t = t := by
  rw [dropEndWhile_eq_rdropWhile, List.rdropWhile_eq_self_iff]
  intro hne hlast
  exact h _ (List.getLast?_eq_some_getLast hne) hlast

/-- What ends in a character that stays is kept. -/
theorem dropEndWhile_append {p : Char → Bool} {lead : Text} {c : Char}
    (hlast : lead.getLast? = some c) (hc : ¬ p c) (t : Text) :
    dropEndWhile p (lead ++ t) = lead ++ dropEndWhile p t := by
  obtain ⟨front, rfl⟩ := List.getLast?_eq_some_iff.1 hlast
  induction t using List.reverseRecOn with
  | nil =>
      rw [List.append_nil, dropEndWhile_eq_rdropWhile, List.rdropWhile_concat_neg _ _ _ hc]
      simp [dropEndWhile]
  | append_singleton t d ih =>
      by_cases hd : p d
      · rw [← List.append_assoc, dropEndWhile_concat hd, ih, dropEndWhile_concat hd]
      · rw [← List.append_assoc, dropEndWhile_eq_rdropWhile, dropEndWhile_eq_rdropWhile,
          List.rdropWhile_concat_neg _ _ _ hd, List.rdropWhile_concat_neg _ _ _ hd,
          List.append_assoc]

theorem beforeTail?_append (front tail : Text) : beforeTail? tail (front ++ tail) = some front := by
  unfold beforeTail?
  rw [List.reverse_append, afterLead?_iff.2 rfl]
  simp

/-! ## Trimming -/

theorem trimStart_cons {c : Char} (hc : ¬ isBlank c) (t : Text) : trimStart (c :: t) = c :: t :=
  List.dropWhile_cons_of_neg hc

theorem trim_cons {c : Char} (hc : isBlank c) (t : Text) : trim (c :: t) = trim t := by
  unfold trim trimStart
  rw [List.dropWhile_cons_of_pos hc]

theorem trim_concat {c : Char} (hc : isBlank c) (t : Text) : trim (t ++ [c]) = trim t := by
  unfold trim trimEnd trimStart
  rw [List.dropWhile_append]
  split
  · next hempty =>
    rw [List.isEmpty_iff.1 hempty, List.dropWhile_cons_of_pos hc]
    rfl
  · exact dropEndWhile_concat hc _

theorem trim_trimEnd (t : Text) : trim (trimEnd t) = trim t := by
  induction t using List.reverseRecOn with
  | nil => rfl
  | append_singleton t c ih =>
      by_cases hc : isBlank c
      · rw [trimEnd, dropEndWhile_concat hc, ← trimEnd, ih, trim_concat hc]
      · rw [trimEnd, dropEndWhile_eq_self fun d hd => ?_]
        obtain rfl : c = d := by simpa using hd
        exact hc

theorem trim_trim (t : Text) : trim (trim t) = trim t := by
  induction t with
  | nil => rfl
  | cons c t ih =>
      by_cases hc : isBlank c
      · rw [trim_cons hc, ih]
      · have heq : trim (c :: t) = trimEnd (c :: t) := by rw [trim, trimStart_cons hc]
        rw [heq, trim_trimEnd, heq]

/-- What leads a text and has no blank at its ends stays as it is. -/
theorem trim_append {c d : Char} (lead : Text) (hfirst : lead.head? = some c)
    (hlast : lead.getLast? = some d) (hc : ¬ isBlank c) (hd : ¬ isBlank d) (t : Text) :
    trim (lead ++ t) = lead ++ trimEnd t := by
  obtain ⟨rest, rfl⟩ := List.head?_eq_some_iff.1 hfirst
  rw [trim, List.cons_append, trimStart_cons hc, ← List.cons_append]
  exact dropEndWhile_append hlast hd t

theorem trim_dropReturn (line : Text) : trim (dropReturn line) = trim line := by
  unfold dropReturn
  cases h : beforeTail? ['\r'] line with
  | none => rfl
  | some front =>
      rw [beforeTail?_eq_some h, trim_concat (by decide)]
      rfl

theorem trim_cut {c : Char} (hc : ¬ isBlank c) (a b : Text) :
    trim (a ++ c :: b) = trimStart a ++ c :: trimEnd b := by
  have hstart : trimStart (a ++ c :: b) = trimStart a ++ c :: b := by
    rw [trimStart, List.dropWhile_append, List.dropWhile_cons_of_neg hc, trimStart]
    split
    · next hempty => rw [List.isEmpty_iff.1 hempty, List.nil_append]
    · rfl
  have hend : dropEndWhile isBlank (trimStart a ++ [c] ++ b) =
      trimStart a ++ [c] ++ dropEndWhile isBlank b := dropEndWhile_append List.getLast?_concat hc b
  rw [trim, hstart]
  simpa [trimEnd] using hend

theorem trim_trimStart (t : Text) : trim (trimStart t) = trim t := by
  rw [trim, trimStart, trimStart, List.dropWhile_idempotent, ← trimStart, ← trim]

/-! ## Blanks around a text -/

theorem trim_append_left {lead : Text} (h : allBlank lead) (t : Text) :
    trim (lead ++ t) = trim t := by
  induction lead with
  | nil => rfl
  | cons c lead ih =>
      rw [allBlank, List.all_cons, Bool.and_eq_true] at h
      rw [List.cons_append, trim_cons h.1, ih h.2]

theorem trim_append_right {tail : Text} (h : allBlank tail) (t : Text) :
    trim (t ++ tail) = trim t := by
  induction tail using List.reverseRecOn with
  | nil => rw [List.append_nil]
  | append_singleton tail c ih =>
      rw [allBlank, List.all_append, Bool.and_eq_true] at h
      rw [← List.append_assoc, trim_concat (by simpa using h.2), ih h.1]

/-- A text with blanks around it. -/
def Padded (core t : Text) : Prop :=
  ∃ lead tail, allBlank lead ∧ allBlank tail ∧ t = lead ++ core ++ tail

theorem padded_trim (t : Text) : Padded (trim t) t := by
  have hstart : t.takeWhile isBlank ++ trimStart t = t := List.takeWhile_append_dropWhile
  have hend : trim t ++ (trimStart t).rtakeWhile isBlank = trimStart t := by
    rw [trim, trimEnd, dropEndWhile_eq_rdropWhile]
    exact List.rdropWhile_append_rtakeWhile ..
  refine ⟨t.takeWhile isBlank, (trimStart t).rtakeWhile isBlank, List.all_takeWhile,
    List.all_eq_true.2 fun c hc => List.mem_rtakeWhile_imp hc, ?_⟩
  rw [List.append_assoc, hend, hstart]

namespace Padded

variable {core t : Text} {c : Char} (h : Padded core t)

include h

theorem trim_eq : trim t = trim core := by
  obtain ⟨lead, tail, hlead, htail, rfl⟩ := h
  rw [trim_append_right htail, trim_append_left hlead]

theorem mem (hc : c ∈ core) : c ∈ t := by
  obtain ⟨lead, tail, -, -, rfl⟩ := h
  exact List.mem_append_left _ (List.mem_append_right _ hc)

theorem mem_core (hblank : ¬ isBlank c) (hc : c ∈ t) : c ∈ core := by
  obtain ⟨lead, tail, hlead, htail, rfl⟩ := h
  rw [List.mem_append, List.mem_append] at hc
  rcases hc with (hc | hc) | hc
  · exact absurd (List.all_eq_true.1 hlead c hc) hblank
  · exact hc
  · exact absurd (List.all_eq_true.1 htail c hc) hblank

end Padded

/-! ## Blanks left out -/

theorem dropBlanks_append (a b : Text) : dropBlanks (a ++ b) = dropBlanks a ++ dropBlanks b :=
  List.filter_append ..

theorem dropBlanks_flatten (pieces : List Text) :
    dropBlanks pieces.flatten = (pieces.map dropBlanks).flatten :=
  List.filter_flatten

theorem dropBlanks_of_allBlank {t : Text} (h : allBlank t) : dropBlanks t = [] :=
  List.filter_eq_nil_iff.2 fun c hc => by simp [List.all_eq_true.1 h c hc]

theorem dropBlanks_trim (t : Text) : dropBlanks (trim t) = dropBlanks t := by
  obtain ⟨lead, tail, hlead, htail, ht⟩ := padded_trim t
  conv_rhs => rw [ht, dropBlanks_append, dropBlanks_append, dropBlanks_of_allBlank hlead,
    dropBlanks_of_allBlank htail, List.nil_append, List.append_nil]

/-! ## Texts without blanks -/

theorem isUpper_iff {c : Char} : c.isUpper ↔ 'A'.val ≤ c.val ∧ c.val ≤ 'Z'.val :=
  decide_eq_true_iff

theorem isLower_iff {c : Char} : c.isLower ↔ 'a'.val ≤ c.val ∧ c.val ≤ 'z'.val :=
  (Bool.and_eq_true _ _).to_iff.trans (and_congr decide_eq_true_iff decide_eq_true_iff)

theorem isAlpha_iff {c : Char} : c.isAlpha ↔ c.isUpper ∨ c.isLower :=
  (Bool.or_eq_true _ _).to_iff

theorem isAlphanum_iff {c : Char} : c.isAlphanum ↔ c.isAlpha ∨ c.isDigit :=
  (Bool.or_eq_true _ _).to_iff

theorem not_isBlank_of_isAlphanum {c : Char} (h : c.isAlphanum) : ¬ isBlank c := by
  have hA : 'A'.val.toNat = 65 := rfl
  have hZ : 'Z'.val.toNat = 90 := rfl
  have ha : 'a'.val.toNat = 97 := rfl
  have hz : 'z'.val.toNat = 122 := rfl
  have h0 : '0'.val.toNat = 48 := rfl
  have h9 : '9'.val.toNat = 57 := rfl
  simp only [isAlphanum_iff, isAlpha_iff, isUpper_iff, isLower_iff, Char.isDigit,
    Bool.and_eq_true, decide_eq_true_eq, UInt32.le_iff_toNat_le, ge_iff_le] at h
  simp only [isBlank, Bool.or_eq_true, Bool.and_eq_true, decide_eq_true_eq, beq_iff_eq,
    Char.toNat]
  omega

/-- A text holds no blank. -/
def Solid (t : Text) : Prop := ∀ c ∈ t, ¬ isBlank c

theorem trim_of_solid {t : Text} (h : Solid t) : trim t = t := by
  cases t with
  | nil => rfl
  | cons c t =>
      rw [trim, trimStart_cons (h c List.mem_cons_self)]
      exact dropEndWhile_eq_self fun d hd => h d (List.mem_of_getLast? hd)

theorem Solid.not_mem {t : Text} (h : Solid t) {c : Char} (hc : isBlank c) : c ∉ t :=
  fun hmem => h c hmem hc

end Text

end Emend
