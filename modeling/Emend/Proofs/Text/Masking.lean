import Mathlib.Data.List.Forall2
import Emend.Proofs.Text.CommentScan
import Emend.Proofs.Text.Masks
/-!
# Masks keep the places of a text

To blank the comments of a text changes some of its bytes into spaces and nothing else, so each
place of the text is a place of the mask (`Masks.isBoundary`) and each line break stays
(`Text.forall₂_maskFrom`).

A mask has no comments: what is left in it of a comment is blank, and what was no comment has not
become one.  A slash has no other star or slash behind it than before, and there is no star and
slash that was not in the text (`Text.closesBlock_of_maskFrom`).  So a second mask is the first
one (`Text.maskFrom_maskFrom`).
-/

namespace Emend

namespace Text

/-! ## Bytes -/

/-- A byte that is kept, or one of no line break that becomes a space. -/
def Blanked (old new : UInt8) : Prop := new = old ∨ new = 0x20 ∧ old ≠ 0x0A ∧ old ≠ 0x0D

theorem forall₂_kept (bytes : Bytes) : List.Forall₂ Blanked bytes bytes :=
  List.forall₂_same.2 fun _ _ => .inl rfl

theorem ne_break_of_mem_encodeChar {c : Char} (hfeed : c ≠ '\n') (hreturn : c ≠ '\r') {b : UInt8}
    (hb : b ∈ Utf8.encodeChar c) : b ≠ 0x0A ∧ b ≠ 0x0D := by
  constructor
  · rintro rfl
    exact hfeed ((Utf8.byte_mem_encodeChar (by decide)).1 hb)
  · rintro rfl
    exact hreturn ((Utf8.byte_mem_encodeChar (by decide)).1 hb)

theorem forall₂_spaces {bytes : Bytes} (h : ∀ b ∈ bytes, b ≠ 0x0A ∧ b ≠ 0x0D) :
    List.Forall₂ Blanked bytes (Utf8.encode (List.replicate bytes.length ' ')) := by
  induction bytes with
  | nil => exact .nil
  | cons b bytes ih =>
      obtain ⟨hb, hbytes⟩ := List.forall_mem_cons.1 h
      exact .cons (.inr ⟨rfl, hb⟩) (ih hbytes)

theorem forall₂_blankChar (c : Char) :
    List.Forall₂ Blanked (Utf8.encodeChar c) (Utf8.encode (blankChar c)) := by
  unfold blankChar
  split
  · rw [Utf8.encode, List.flatMap_singleton]
    exact forall₂_kept _
  · next hbreak =>
    obtain ⟨hfeed, hreturn⟩ := not_or.1 hbreak
    rw [← Utf8.length_encodeChar]
    exact forall₂_spaces fun b hb => ne_break_of_mem_encodeChar hfeed hreturn hb

/-- The bytes of a mask are those of the text, but for spaces. -/
theorem forall₂_maskFrom (state : CommentState) (t : Text) :
    List.Forall₂ Blanked (Utf8.encode t) (Utf8.encode (maskFrom state t)) := by
  induction t generalizing state with
  | nil => exact .nil
  | cons c t ih =>
      have hcons : Utf8.encode (c :: t) = Utf8.encodeChar c ++ Utf8.encode t := List.flatMap_cons
      rw [hcons]
      cases hstep : state.step c t with
      | mk next comment =>
      cases comment with
      | false =>
          rw [maskFrom_keep hstep]
          exact List.rel_append (forall₂_kept (Utf8.encodeChar c)) (ih next)
      | true =>
          rw [maskFrom_hide hstep, Utf8.encode_append]
          exact List.rel_append (forall₂_blankChar c) (ih next)

/-! ## Masks of masks -/

/-- What opens no comment and no string. -/
theorem maskFrom_plain {part : Text} (h : ∀ c ∈ part, isBlank c = true) (t : Text) :
    maskFrom .code (part ++ t) = part ++ maskFrom .code t := by
  induction part with
  | nil => rfl
  | cons c part ih =>
      obtain ⟨hc, hpart⟩ := List.forall_mem_cons.1 h
      have hstep : CommentState.step .code c (part ++ t) = (.code, false) := by
        have hne : ∀ d, isBlank d = false → c ≠ d := by
          rintro d hd rfl
          rw [hc] at hd
          cases hd
        simp [CommentState.step, CommentState.afterCode, hne '"' (by decide), hne '#' (by decide),
          hne '/' (by decide)]
      rw [List.cons_append, maskFrom_keep hstep, ih hpart, List.cons_append]

theorem blankChar_ne_nil (c : Char) : blankChar c ≠ [] := by
  unfold blankChar
  split
  · exact List.cons_ne_nil c []
  · have hpos := c.utf8Size_pos
    rw [Ne, List.replicate_eq_nil_iff]
    omega

/-- A mask starts with a blank or as the text does. -/
theorem head?_maskFrom {state : CommentState} {t : Text} {c : Char} (hc : isBlank c = false)
    (h : (maskFrom state t).head? = some c) : t.head? = some c := by
  cases t with
  | nil => exact h
  | cons d t =>
      cases hstep : state.step d t with
      | mk next comment =>
      cases comment with
      | false =>
          rw [maskFrom_keep hstep] at h
          exact h
      | true =>
          rw [maskFrom_hide hstep, List.head?_append_of_ne_nil _ (blankChar_ne_nil d)] at h
          have hblank := isBlank_of_blankChar (List.mem_of_mem_head? h)
          rw [hc] at hblank
          cases hblank

theorem closesBlock_append {part : Text} (h : ∀ c ∈ part, isBlank c = true) (t : Text) :
    closesBlock (part ++ t) = closesBlock t := by
  induction part with
  | nil => rfl
  | cons c part ih =>
      obtain ⟨hc, hpart⟩ := List.forall_mem_cons.1 h
      have hstar : c ≠ '*' := by
        rintro rfl
        exact absurd hc (by decide)
      rw [List.cons_append, closesBlock, ih hpart]
      simp [hstar]

/-- A mask has no star and slash that the text does not have. -/
theorem closesBlock_of_maskFrom {state : CommentState} {t : Text}
    (h : closesBlock (maskFrom state t) = true) : closesBlock t = true := by
  induction t generalizing state with
  | nil => exact h
  | cons c t ih =>
      rw [closesBlock]
      cases hstep : state.step c t with
      | mk next comment =>
      cases comment with
      | true =>
          rw [maskFrom_hide hstep, closesBlock_append fun _ => isBlank_of_blankChar] at h
          simp [ih h]
      | false =>
          rw [maskFrom_keep hstep, closesBlock, Bool.or_eq_true, Bool.and_eq_true, beq_iff_eq,
            beq_iff_eq] at h
          rcases h with ⟨hstar, hslash⟩ | hlater
          · simp [hstar, head?_maskFrom (by decide) hslash]
          · simp [ih hlater]

/-- The state that a mask is in when it is masked again: there are no comments in it. -/
def CommentState.unmasked : CommentState → CommentState
  | .line | .blockOpen | .block | .blockClose => .code
  | state => state

/-- A character that is hidden is in a comment, and what follows is in it, too, or it is not in a
string. -/
theorem unmasked_of_hidden {state next : CommentState} {c : Char} {t : Text}
    (h : state.step c t = (next, true)) : state.unmasked = .code ∧ next.unmasked = .code := by
  cases state with
  | code =>
      simp only [CommentState.step, CommentState.afterCode] at h
      grind [CommentState.unmasked]
  | string | escape | star =>
      simp only [CommentState.step] at h
      grind
  | line | blockOpen | block | blockClose =>
      simp only [CommentState.step] at h
      grind [CommentState.unmasked]

/-- What does not open a comment in a text does not open one in a mask. -/
theorem afterCode_maskFrom {next : CommentState} {c : Char} {t : Text}
    (h : CommentState.afterCode c t = (next, false)) :
    CommentState.afterCode c (maskFrom next t) = (next, false) := by
  unfold CommentState.afterCode at h
  split at h
  · next hquote =>
    cases h
    rw [CommentState.afterCode, if_pos hquote]
  next hquote =>
  split at h
  · cases h
  next hhash =>
  split at h
  · next hopens =>
    -- The star is kept, and no star and slash comes after it, as none did so in the text.
    obtain ⟨rfl, hstar⟩ := hopens
    split at h
    · cases h
    next hcloses =>
    cases h
    cases t with
    | nil => cases hstar
    | cons d t =>
        cases hstar
        have hstill : closesBlock (maskFrom .code t) = false := by
          rw [← Bool.not_eq_true]
          exact fun hmask => hcloses (closesBlock_of_maskFrom hmask)
        rw [@maskFrom_keep .star _ _ _ rfl]
        simp [CommentState.afterCode, hstill]
  next hblock =>
  split at h
  · cases h
  next hline =>
  cases h
  have hnot : ∀ d, isBlank d = false → ¬ (c = '/' ∧ t.head? = some d) →
      ¬ (c = '/' ∧ (maskFrom .code t).head? = some d) :=
    fun d hd hold hnew => hold ⟨hnew.1, head?_maskFrom hd hnew.2⟩
  rw [CommentState.afterCode, if_neg hquote, if_neg hhash, if_neg (hnot '*' (by decide) hblock),
    if_neg (hnot '/' (by decide) hline)]

/-- A character that is kept is kept again. -/
theorem step_unmasked {state next : CommentState} {c : Char} {t : Text}
    (h : state.step c t = (next, false)) :
    state.unmasked.step c (maskFrom next t) = (next.unmasked, false) := by
  cases state with
  | code =>
      have hnext : next.unmasked = next := by
        simp only [CommentState.step, CommentState.afterCode] at h
        grind [CommentState.unmasked]
      rw [hnext]
      exact afterCode_maskFrom h
  | string | escape | star =>
      simp only [CommentState.step] at h
      grind [CommentState.unmasked, CommentState.step]
  | line =>
      simp only [CommentState.step] at h
      split at h
      · next hfeed =>
        cases h
        rw [hfeed]
        rfl
      · cases h
  | blockOpen | block | blockClose =>
      simp only [CommentState.step] at h
      grind

theorem maskFrom_maskFrom (state : CommentState) (t : Text) :
    maskFrom state.unmasked (maskFrom state t) = maskFrom state t := by
  induction t generalizing state with
  | nil => rfl
  | cons c t ih =>
      cases hstep : state.step c t with
      | mk next comment =>
      cases comment with
      | false => rw [maskFrom_keep hstep, maskFrom_keep (step_unmasked hstep), ih next]
      | true =>
          obtain ⟨hstate, hnext⟩ := unmasked_of_hidden hstep
          have hrest := ih next
          rw [hnext] at hrest
          rw [maskFrom_hide hstep, hstate, maskFrom_plain fun _ => isBlank_of_blankChar, hrest]

/-- The comments of a text are found at places of the text, byte by byte.  To blank them keeps the
number of bytes, each byte that becomes no space, all line breaks and each place of the text, and
there is nothing left to be blanked. -/
theorem maskComments_stable (t : Text) :
    Checked.maskComments t = .ok (maskComments t) ∧
      size (maskComments t) = size t ∧
      List.Forall₂ (fun old new => new = old ∨ new = 0x20 ∧ old ≠ 0x0A ∧ old ≠ 0x0D)
        (Utf8.encode t) (Utf8.encode (maskComments t)) ∧
      Utf8.decode (Utf8.encode (maskComments t)) = .ok (maskComments t) ∧
      (∀ n, isBoundary n t = true → isBoundary n (maskComments t) = true) ∧
      maskComments (maskComments t) = maskComments t :=
  ⟨Checked.maskComments_eq t, size_maskFrom .code t, forall₂_maskFrom .code t,
    Utf8.decode_encode _, fun _ => (masks_maskFrom .code t).isBoundary, maskFrom_maskFrom .code t⟩

end Text

end Emend
