import Mathlib.Data.List.Forall2
import Emend.Proofs.Text.Blanks
import Emend.Proofs.Text.LineSpans
import Emend.Signature.Parts
/-!
# Balanced brackets

*Parentheses.*  A text whose parentheses are balanced (`openParens?`) is not left by a search for
the parenthesis that closes an outer one (`splitAtClosing?_balanced`).

*Brackets.*  A text whose brackets are balanced, and that has no comma outside of them
(`openBrackets?`), is one piece of a list, and with blanks around it as well (`IsPiece.padded`).  So
pieces of this kind that are put together with commas come apart at these commas again, and without
the blanks around them they are the parts of the list (`splitTopLevel_padded`).
-/

namespace Emend

variable {a b t : Text} {c prev : Char} {depth opened : Nat}

/-! ## Parentheses -/

/-- The number of open parentheses after a text, if none is closed that has not been opened. -/
def openParens? (depth : Nat) : Text → Option Nat
  | [] => some depth
  | c :: t =>
    if c = '(' then openParens? (depth + 1) t
    else if c = ')' then (if depth = 0 then none else openParens? (depth - 1) t)
    else openParens? depth t

theorem openParens?_append (depth : Nat) (a b : Text) :
    openParens? depth (a ++ b) = (openParens? depth a).bind fun n => openParens? n b := by
  induction a generalizing depth with
  | nil => rfl
  | cons c a ih =>
      simp only [List.cons_append, openParens?, ih]
      split
      · rfl
      · split
        · split <;> rfl
        · rfl

theorem openParens?_of_not_mem (h : '(' ∉ t) (h' : ')' ∉ t) (depth : Nat) :
    openParens? depth t = some depth := by
  induction t with
  | nil => rfl
  | cons c t ih =>
      obtain ⟨hc, ht⟩ := not_or.1 (mt List.mem_cons.2 h)
      obtain ⟨hc', ht'⟩ := not_or.1 (mt List.mem_cons.2 h')
      rw [openParens?, if_neg (Ne.symm hc), if_neg (Ne.symm hc'), ih ht ht']

/-- A search for a closing parenthesis goes on after what closes only what it opens. -/
theorem splitAtClosing?_append_of_openParens (h : openParens? depth a = some opened) (b : Text) :
    splitAtClosing? (depth + 1) (a ++ b) =
      (splitAtClosing? (opened + 1) b).map fun cut => (a ++ cut.1, cut.2) := by
  induction a generalizing depth with
  | nil =>
      cases h
      simp
  | cons c a ih =>
      have hgo : ∀ {d}, openParens? d a = some opened →
          (splitAtClosing? (d + 1) (a ++ b)).map (fun cut => (c :: cut.1, cut.2)) =
            (splitAtClosing? (opened + 1) b).map fun cut => (c :: a ++ cut.1, cut.2) := by
        intro d hd
        rw [ih hd, Option.map_map]
        rfl
      rw [openParens?] at h
      by_cases hopen : c = '('
      · subst hopen
        rw [if_pos rfl] at h
        rw [List.cons_append, splitAtClosing?, if_neg (by simp)]
        simpa using hgo h
      · rw [if_neg hopen] at h
        by_cases hclose : c = ')'
        · subst hclose
          rw [if_pos rfl] at h
          split at h
          · cases h
          · next hdepth =>
            have hdepth' : depth - 1 + 1 = depth := by omega
            rw [List.cons_append, splitAtClosing?, if_neg (by omega)]
            have hrest := hgo h
            rw [hdepth'] at hrest
            simpa using hrest
        · rw [if_neg hclose] at h
          rw [List.cons_append, splitAtClosing?, if_neg (by simp [hclose])]
          simpa [hopen, hclose] using hgo h

/-- What is balanced is not left before the parenthesis that closes it. -/
theorem splitAtClosing?_balanced (h : openParens? 0 a = some 0) (b : Text) :
    splitAtClosing? 1 (a ++ ')' :: b) = some (a, b) := by
  rw [splitAtClosing?_append_of_openParens h, splitAtClosing?, if_pos ⟨rfl, Nat.le_refl 1⟩]
  simp

/-! ## Brackets -/

/-- A character closes a bracket.  The angle of an arrow does not. -/
def ClosesBracket (prev c : Char) : Prop :=
  c = ')' ∨ c = ']' ∨ c = '}' ∨ (c = '>' ∧ prev ≠ '-')

instance (prev c : Char) : Decidable (ClosesBracket prev c) := inferInstanceAs (Decidable (_ ∨ _))

/-- The number of open brackets after a text, if none is closed that has not been opened, and if no
comma stands outside of all. -/
def openBrackets? (depth : Nat) (prev : Char) : Text → Option Nat
  | [] => some depth
  | c :: t =>
    if depth = 0 ∧ (c = ',' ∨ ClosesBracket prev c) then none
    else openBrackets? (bracketDepth depth prev c) c t

theorem openBrackets?_append (depth : Nat) (prev : Char) (a b : Text) :
    openBrackets? depth prev (a ++ b) =
      (openBrackets? depth prev a).bind fun n => openBrackets? n (a.getLastD prev) b := by
  induction a generalizing depth prev with
  | nil => rfl
  | cons c a ih =>
      rw [List.cons_append, openBrackets?, openBrackets?, List.getLastD_cons]
      split
      · rfl
      · exact ih _ _

/-- The characters that count when a list is cut. -/
def delimiters : List Char := ['(', ')', '<', '>', '[', ']', '{', '}', ',']

theorem openBrackets?_of_not_mem (h : ∀ c ∈ delimiters, c ∉ t) (depth : Nat) (prev : Char) :
    openBrackets? depth prev t = some depth := by
  induction t generalizing prev with
  | nil => rfl
  | cons c t ih =>
      have hc : c ∉ delimiters := fun hc => h c hc List.mem_cons_self
      have ht : ∀ d ∈ delimiters, d ∉ t := fun d hd hmem => h d hd (List.mem_cons_of_mem _ hmem)
      simp only [delimiters, List.mem_cons, List.not_mem_nil, or_false, not_or] at hc
      have hdepth : bracketDepth depth prev c = depth := by
        simp [bracketDepth, hc]
      rw [openBrackets?, if_neg (by simp [ClosesBracket, hc]), hdepth, ih ht]

theorem commaPieces_ne_nil (depth : Nat) (prev : Char) (t : Text) :
    commaPieces depth prev t ≠ [] := by
  cases t with
  | nil => exact List.cons_ne_nil _ _
  | cons c t =>
      rw [commaPieces]
      split
      · exact List.cons_ne_nil _ _
      · split <;> exact List.cons_ne_nil _ _

theorem commaPieces_cons (h : ¬ (c = ',' ∧ depth = 0)) (prev : Char) (t : Text) :
    commaPieces depth prev (c :: t) =
      (commaPieces (bracketDepth depth prev c) c t).modifyHead (c :: ·) := by
  rw [commaPieces, if_neg h]
  cases hpieces : commaPieces (bracketDepth depth prev c) c t with
  | nil => exact absurd hpieces (commaPieces_ne_nil _ _ _)
  | cons piece pieces => rfl

/-- What has no comma outside of brackets belongs to one piece. -/
theorem commaPieces_append (h : openBrackets? depth prev a = some opened) (b : Text) :
    commaPieces depth prev (a ++ b) =
      (commaPieces opened (a.getLastD prev) b).modifyHead (a ++ ·) := by
  induction a generalizing depth prev with
  | nil =>
      cases h
      rw [List.nil_append, List.getLastD_nil]
      exact (congrFun List.modifyHead_id _).symm
  | cons c a ih =>
      rw [openBrackets?] at h
      split at h
      · cases h
      · next hcond =>
        have hcomma : ¬ (c = ',' ∧ depth = 0) := fun hc => hcond ⟨hc.2, .inl hc.1⟩
        rw [List.cons_append, commaPieces_cons hcomma, ih h, List.modifyHead_modifyHead,
          List.getLastD_cons]
        rfl

/-- A piece of a list: its brackets are balanced, and it has no comma outside of them. -/
def IsPiece (t : Text) : Prop := openBrackets? 0 ' ' t = some 0

instance (t : Text) : Decidable (IsPiece t) := inferInstanceAs (Decidable (_ = _))

/-- The character before a text counts only if it may be the dash of an arrow. -/
theorem openBrackets?_of_ne {prev' : Char} (h : prev ≠ '-') (h' : prev' ≠ '-') (t : Text) :
    openBrackets? depth prev t = openBrackets? depth prev' t := by
  cases t with
  | nil => rfl
  | cons c t => simp [openBrackets?, ClosesBracket, bracketDepth, h, h']

theorem openBrackets?_of_allBlank (h : Text.allBlank t) (depth : Nat) (prev : Char) :
    openBrackets? depth prev t = some depth := by
  refine openBrackets?_of_not_mem (fun c hc hmem => ?_) depth prev
  have hsolid : delimiters.all (fun c => !isBlank c) = true := by decide
  have hblank := List.all_eq_true.1 h c hmem
  exact absurd hblank (by simpa using List.all_eq_true.1 hsolid c hc)

/-- Blanks around a piece are part of the piece. -/
theorem IsPiece.padded {piece : Text} (h : IsPiece piece) (hpadded : Text.Padded piece t) :
    IsPiece t := by
  obtain ⟨lead, tail, hlead, htail, rfl⟩ := hpadded
  have hdash : lead.getLastD ' ' ≠ '-' := by
    rw [List.getLastD_eq_getLast?]
    cases hlast : lead.getLast? with
    | none => decide
    | some c =>
        rintro rfl
        exact absurd (List.all_eq_true.1 hlead '-' (List.mem_of_getLast? hlast)) (by decide)
  have hpiece : openBrackets? 0 (lead.getLastD ' ') piece = some 0 :=
    (openBrackets?_of_ne hdash (by decide) piece).trans h
  rw [IsPiece, openBrackets?_append, openBrackets?_append, openBrackets?_of_allBlank hlead,
    Option.bind_some, hpiece, Option.bind_some, openBrackets?_of_allBlank htail]

/-- Pieces that are put together come apart again. -/
theorem commaPieces_join {piece : Text} {pieces : List Text} (hprev : prev ≠ '-')
    (h : ∀ p ∈ piece :: pieces, IsPiece p) :
    commaPieces 0 prev (Text.join [','] (piece :: pieces)) = piece :: pieces := by
  induction pieces generalizing piece prev with
  | nil =>
      have hpiece := h piece List.mem_cons_self
      rw [IsPiece, openBrackets?_of_ne (by decide) hprev] at hpiece
      have hcut := commaPieces_append hpiece []
      rw [List.append_nil] at hcut
      simpa [Text.join, commaPieces] using hcut
  | cons next pieces ih =>
      obtain ⟨hpiece, hrest⟩ := List.forall_mem_cons.1 h
      rw [IsPiece, openBrackets?_of_ne (by decide) hprev] at hpiece
      rw [Text.join_cons _ _ (List.cons_ne_nil _ _), List.append_assoc, commaPieces_append hpiece,
        List.singleton_append, commaPieces, if_pos ⟨rfl, rfl⟩, ih (by decide) hrest,
        List.modifyHead_cons, List.append_nil]

theorem IsPiece.of_padded {parts pieces : List Text} (h : ∀ p ∈ parts, IsPiece p ∧ Text.trim p = p)
    (hpadded : List.Forall₂ Text.Padded parts pieces) :
    pieces.map Text.trim = parts ∧ ∀ p ∈ pieces, IsPiece p := by
  induction hpadded with
  | nil => exact ⟨rfl, by simp⟩
  | cons hfirst _ ih =>
      obtain ⟨⟨hpiece, htrim⟩, hrest⟩ := List.forall_mem_cons.1 h
      obtain ⟨hmap, hpieces⟩ := ih hrest
      exact ⟨by rw [List.map_cons, hfirst.trim_eq, htrim, hmap],
        List.forall_mem_cons.2 ⟨hpiece.padded hfirst, hpieces⟩⟩

/-- Trimmed pieces that are put together with commas, which may have blanks around them, are the
parts of the list. -/
theorem splitTopLevel_padded {parts pieces : List Text}
    (h : ∀ p ∈ parts, IsPiece p ∧ Text.trim p = p ∧ p ≠ [])
    (hpadded : List.Forall₂ Text.Padded parts pieces) :
    splitTopLevel (Text.join [','] pieces) = parts := by
  obtain ⟨hmap, hpieces⟩ := IsPiece.of_padded (fun p hp => ⟨(h p hp).1, (h p hp).2.1⟩) hpadded
  cases pieces with
  | nil => exact hmap
  | cons piece pieces =>
      rw [splitTopLevel, commaPieces_join (by decide) hpieces, hmap]
      exact List.filter_eq_self.2 fun p hp => by simpa using (h p hp).2.2

theorem join_comma_space (piece : Text) (pieces : List Text) :
    Text.join [',', ' '] (piece :: pieces) =
      Text.join [','] (piece :: pieces.map (' ' :: ·)) := by
  induction pieces generalizing piece with
  | nil => rfl
  | cons next pieces ih =>
      rw [Text.join_cons _ _ (List.cons_ne_nil _ _), ih]
      cases pieces with
      | nil => simp [Text.join]
      | cons third pieces => simp [Text.join]

/-- A list may be written with a space after each comma. -/
theorem splitTopLevel_join {pieces : List Text}
    (h : ∀ p ∈ pieces, IsPiece p ∧ Text.trim p = p ∧ p ≠ []) :
    splitTopLevel (Text.join [',', ' '] pieces) = pieces := by
  cases pieces with
  | nil => rfl
  | cons piece pieces =>
      rw [join_comma_space]
      refine splitTopLevel_padded h (.cons ⟨[], [], rfl, rfl, by simp⟩ ?_)
      refine List.forall₂_map_right_iff.2 (List.forall₂_same.2 fun p _ => ?_)
      exact ⟨[' '], [], by decide, by decide, by simp⟩

end Emend
