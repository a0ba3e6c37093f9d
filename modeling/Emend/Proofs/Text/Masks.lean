import Emend.Proofs.Text.Blanks
import Emend.Text.Comment
/-!
# Masks

A mask has blanks of the same size in place of each character that it hides (`Masks`), and a text
with its comments blanked is a mask of it (`masks_maskFrom`).

A text and its mask are cut at the same offsets (`Masks.split`, `Masks.isBoundary`).  What is no
blank in the mask has not been hidden, so a run without blanks in it is a run of the text at the same
offset (`Masks.exists_part`).
-/

namespace Emend

/-- A text of which some characters are hidden by blanks of the same size. -/
inductive Masks : Text → Text → Prop where
  /-- There is nothing left. -/
  | nil : Masks [] []
  /-- A character that is kept. -/
  | keep {t mask : Text} (c : Char) : Masks t mask → Masks (c :: t) (c :: mask)
  /-- A character that is hidden. -/
  | hide {t mask blanks : Text} (c : Char) : (∀ b ∈ blanks, isBlank b = true) →
    Text.size blanks = c.utf8Size → Masks t mask → Masks (c :: t) (blanks ++ mask)

theorem masks_refl (t : Text) : Masks t t := by
  induction t with
  | nil => exact .nil
  | cons c t ih => exact .keep c ih

theorem isBlank_of_blankChar {b c : Char} (h : b ∈ Text.blankChar c) : isBlank b = true := by
  unfold Text.blankChar at h
  split at h
  · next hc =>
    rw [List.mem_singleton.1 h]
    rcases hc with rfl | rfl <;> decide
  · rw [(List.mem_replicate.1 h).2]
    decide

theorem masks_maskFrom (state : Text.CommentState) (t : Text) :
    Masks t (Text.maskFrom state t) := by
  induction t generalizing state with
  | nil => exact .nil
  | cons c t ih =>
      rw [Text.maskFrom]
      cases hstep : state.step c t with
      | mk next comment =>
      cases comment with
      | false => exact .keep c (ih next)
      | true => exact .hide c (fun _ => isBlank_of_blankChar) (Text.size_blankChar c) (ih next)

namespace Masks

variable {t mask : Text}

/-! ## Cuts of the text -/

theorem size_eq (h : Masks t mask) : Text.size mask = Text.size t := by
  induction h with
  | nil => rfl
  | keep c _ ih => rw [Text.size, Text.size, ih]
  | hide c _ hsize _ ih => rw [Text.size_append, Text.size, hsize, ih]

/-- The parts of a text are hidden one by one. -/
theorem split {before after : Text} (h : Masks (before ++ after) mask) :
    ∃ front back, mask = front ++ back ∧ Masks before front ∧ Masks after back := by
  induction before generalizing mask with
  | nil => exact ⟨[], mask, rfl, .nil, h⟩
  | cons c before ih =>
      rw [List.cons_append] at h
      cases h with
      | keep _ h =>
          obtain ⟨front, back, rfl, hbefore, hafter⟩ := ih h
          exact ⟨c :: front, back, rfl, .keep c hbefore, hafter⟩
      | @hide _ _ blanks _ hblanks hsize h =>
          obtain ⟨front, back, rfl, hbefore, hafter⟩ := ih h
          exact ⟨blanks ++ front, back, by rw [List.append_assoc], .hide c hblanks hsize hbefore,
            hafter⟩

theorem isBoundary {n : Nat} (h : Masks t mask) (hn : Text.isBoundary n t = true) :
    Text.isBoundary n mask = true := by
  obtain ⟨before, after, rfl, rfl⟩ := Text.isBoundary_iff.1 hn
  obtain ⟨front, back, rfl, hbefore, -⟩ := h.split
  exact Text.isBoundary_iff.2 ⟨front, back, rfl, hbefore.size_eq⟩

/-! ## Runs without blanks -/

/-- Where a mask has a character that is no blank, the text has it, too. -/
theorem exists_cut (h : Masks t mask) {front back : Text} {c : Char} (hc : isBlank c = false)
    (hmask : mask = front ++ c :: back) :
    ∃ before after, t = before ++ c :: after ∧ Masks before front ∧ Masks after back := by
  induction h generalizing front with
  | nil => simp at hmask
  | @keep t mask d h ih =>
      cases front with
      | nil =>
          cases hmask
          exact ⟨[], t, rfl, .nil, h⟩
      | cons e front =>
          cases hmask
          obtain ⟨before, after, rfl, hbefore, hafter⟩ := ih rfl
          exact ⟨d :: before, after, rfl, .keep d hbefore, hafter⟩
  | @hide t mask blanks d hblanks hsize _ ih =>
      rcases List.append_eq_append_iff.1 hmask with ⟨more, rfl, hrest⟩ | ⟨more, rfl, hrest⟩
      · obtain ⟨before, after, rfl, hbefore, hafter⟩ := ih hrest
        exact ⟨d :: before, after, rfl, .hide d hblanks hsize hbefore, hafter⟩
      · cases more with
        | nil =>
            have hmask : mask = [] ++ c :: back := hrest.symm
            obtain ⟨before, after, rfl, hbefore, hafter⟩ := ih hmask
            rw [List.append_nil] at hblanks hsize
            have hhidden := Masks.hide d hblanks hsize hbefore
            rw [List.append_nil] at hhidden
            exact ⟨d :: before, after, rfl, hhidden, hafter⟩
        | cons e more =>
            -- The character would be one of the blanks that hide another one.
            cases hrest
            rw [hblanks c (by simp)] at hc
            cases hc

/-- What starts a mask and has no blanks starts the text. -/
theorem exists_append {word back : Text} (h : Masks t (word ++ back)) (hsolid : Text.Solid word) :
    ∃ after, t = word ++ after := by
  induction word generalizing t with
  | nil => exact ⟨t, rfl⟩
  | cons c word ih =>
      have hc : isBlank c = false := by simpa using hsolid c List.mem_cons_self
      have hmask : c :: word ++ back = [] ++ c :: (word ++ back) := rfl
      obtain ⟨before, after, rfl, hbefore, hafter⟩ := h.exists_cut hc hmask
      obtain rfl : before = [] := Text.eq_nil_of_size hbefore.size_eq.symm
      obtain ⟨after, rfl⟩ := ih hafter fun d hd => hsolid d (List.mem_cons_of_mem c hd)
      exact ⟨after, rfl⟩

/-- A run without blanks in a mask is a run of the text, at the same offset. -/
theorem exists_part (h : Masks t mask) {front word back : Text} (hne : word ≠ [])
    (hsolid : Text.Solid word) (hmask : mask = front ++ word ++ back) :
    ∃ before after, t = before ++ word ++ after ∧ Text.size before = Text.size front := by
  obtain ⟨c, word, rfl⟩ := List.exists_cons_of_ne_nil hne
  have hc : isBlank c = false := by simpa using hsolid c List.mem_cons_self
  rw [List.append_assoc, List.cons_append] at hmask
  obtain ⟨before, after, rfl, hbefore, hafter⟩ := h.exists_cut hc hmask
  obtain ⟨after, rfl⟩ := hafter.exists_append fun d hd => hsolid d (List.mem_cons_of_mem c hd)
  exact ⟨before, after, by simp, hbefore.size_eq.symm⟩

end Masks

end Emend
