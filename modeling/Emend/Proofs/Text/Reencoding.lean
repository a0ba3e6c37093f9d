import Emend.Proofs.Text.LineTexts
/-!
# Texts in another style

What is made ready for a file depends on the lines of a text only, and on no style that it was in
before (`prepare_uniform`).

*Line breaks.*  A text has its line breaks made line feeds in two goes: the pairs of a carriage
return and a line feed first, and then the carriage returns that are left (`normalize_eq_replace`).
There is a line feed then if the text had a line break at all (`lineFeed_mem_normalize`).

*Styles.*  In the style with two characters each line feed comes right after a carriage return
(`returned_crlf`), and each carriage return right before a line feed (`paired_crlf`).
-/

namespace Emend

namespace LineEnding

open Text

variable {t : Text}

/-! ## Line breaks -/

/-- A text with a pair of characters replaced: from the left, and each character is in one pair at
most. -/
def replacePair (first second : Char) (new : Text) : Text → Text
  | [] => []
  | [c] => [c]
  | c :: d :: t =>
    if c = first ∧ d = second then new ++ replacePair first second new t
    else c :: replacePair first second new (d :: t)

theorem replacePair_cons {first second c : Char} (new : Text)
    (h : ¬ (c = first ∧ t.head? = some second)) :
    replacePair first second new (c :: t) = c :: replacePair first second new t := by
  cases t with
  | nil => rfl
  | cons d t => exact if_neg fun hpair => h ⟨hpair.1, congrArg some hpair.2⟩

/-- The line breaks of a text are made line feeds in two goes. -/
theorem normalize_eq_replace (t : Text) :
    normalize t = replaceChar '\r' ['\n'] (replacePair '\r' '\n' ['\n'] t) := by
  fun_induction normalize t with
  | case1 => rfl
  | case2 t ih =>
      rw [replacePair, if_pos ⟨rfl, rfl⟩, ih]
      rfl
  | case3 t hnext ih =>
      rw [replacePair_cons _ fun hpair => ?_, ih]
      · rfl
      · obtain ⟨rest, rfl⟩ := List.head?_eq_some_iff.1 hpair.2
        exact hnext rest rfl
  | case4 c t _ hc ih =>
      rw [replacePair_cons _ fun hpair => hc hpair.1, replaceChar_cons_of_ne hc, ih]

/-- There is a line feed if the text has a line break. -/
theorem lineFeed_mem_normalize (h : '\n' ∈ t ∨ '\r' ∈ t) : '\n' ∈ normalize t := by
  fun_induction normalize t with
  | case1 => simp at h
  | case2 t ih => exact List.mem_cons_self
  | case3 t hnext ih => exact List.mem_cons_self
  | case4 c t _ hc ih =>
      rw [List.mem_cons, List.mem_cons] at h
      rw [List.mem_cons]
      rcases h with (hfeed | hfeed) | (hreturn | hreturn)
      · exact .inl hfeed
      · exact .inr (ih (.inl hfeed))
      · exact absurd hreturn.symm hc
      · exact .inr (ih (.inr hreturn))

/-! ## Styles -/

/-- What is made ready for a file has the line breaks of the text. -/
theorem normalize_prepare (ending : LineEnding) (t : Text) :
    normalize (ending.prepare t) = normalize t := by
  have hreturn := not_mem_normalize t
  cases ending with
  | lf => rw [prepare, encode_lf, normalize_of_not_mem hreturn]
  | crlf => exact normalize_crlf hreturn

theorem detect_prepare (ending : LineEnding) (h : '\n' ∈ t ∨ '\r' ∈ t) :
    detect (ending.prepare t) = ending := by
  cases ending with
  | lf =>
      rw [prepare, encode_lf]
      exact detect_of_not_mem (not_mem_normalize t)
  | crlf => exact detect_crlf (lineFeed_mem_normalize h)

/-- In the form with two characters each carriage return is one of them. -/
theorem paired_crlf (h : '\r' ∉ t) : Paired (crlf.encode t) := by
  induction t with
  | nil => exact paired_nil
  | cons c t ih =>
      rw [List.mem_cons, not_or] at h
      by_cases hc : c = '\n'
      · subst hc
        rw [encode_cons_lineFeed]
        refine paired_cons_iff.2 ⟨fun _ => rfl, paired_cons_iff.2 ⟨?_, ih h.2⟩⟩
        exact fun heq => absurd heq (by decide)
      · rw [encode_cons_of_ne crlf hc]
        exact paired_cons_iff.2 ⟨fun heq => absurd heq.symm h.1, ih h.2⟩

/-- Each line feed comes right after a carriage return. -/
def Returned (t : Text) : Prop :=
  ∀ before after, t = before ++ '\n' :: after → before.getLast? = some '\r'

theorem returned_crlf (t : Text) : Returned (crlf.encode t) := by
  have hcons : ∀ {c : Char} {u : Text}, u.getLast? = some '\r' → (c :: u).getLast? = some '\r' :=
    fun h => by rw [List.getLast?_cons, h]; rfl
  induction t with
  | nil =>
      intro before after h
      simp [encode, replaceChar] at h
  | cons c t ih =>
      intro before after h
      by_cases hc : c = '\n'
      · subst hc
        rw [encode_cons_lineFeed] at h
        rcases before with _ | ⟨d, _ | ⟨e, before⟩⟩
        · cases h
        · cases h
          rfl
        · obtain ⟨-, h⟩ := List.cons.inj h
          exact hcons (hcons (ih _ after (List.cons.inj h).2))
      · rw [encode_cons_of_ne crlf hc] at h
        cases before with
        | nil => exact absurd (List.cons.inj h).1 hc
        | cons d before => exact hcons (ih _ after (List.cons.inj h).2)

/-- Line breaks, of any form and in any order, are made line feeds in two goes, and no carriage
return is left.  Making a text ready for a file loses none of them, so it does not count in which
style the text was before.  In the style with two characters each carriage return comes right before
a line feed, and each line feed right after a carriage return.  The style is detected in what is made
ready as soon as there is a line break. -/
theorem prepare_uniform (t : Text) :
    normalize t = replaceChar '\r' ['\n'] (replacePair '\r' '\n' ['\n'] t) ∧
    '\r' ∉ normalize t ∧
    (∀ ending : LineEnding, normalize (ending.prepare t) = normalize t) ∧
    (∀ first second : LineEnding, second.prepare (first.prepare t) = second.prepare t) ∧
    Paired (crlf.prepare t) ∧ Returned (crlf.prepare t) ∧
    ∀ ending : LineEnding, '\n' ∈ t ∨ '\r' ∈ t → detect (ending.prepare t) = ending := by
  refine ⟨normalize_eq_replace t, not_mem_normalize t, fun ending => normalize_prepare ending t,
    fun first second => ?_, paired_crlf (not_mem_normalize t), returned_crlf _,
    fun ending h => detect_prepare ending h⟩
  rw [prepare, normalize_prepare, prepare]

/-- Four line breaks: a carriage return, one with a line feed after it, and two line feeds. -/
def mixedBreaks : Text := ['a', '\r', '\r', '\n', '\n', 'b', '\n']

theorem prepare_uniform_mixed :
    '\r' ∈ mixedBreaks ∧ detect (crlf.prepare mixedBreaks) = crlf ∧
      detect (lf.prepare mixedBreaks) = lf ∧
      lf.prepare (crlf.prepare mixedBreaks) = ['a', '\n', '\n', '\n', 'b', '\n'] := by
  have hbreak : '\r' ∈ mixedBreaks := by decide
  obtain ⟨-, -, -, htwice, -, -, hdetect⟩ := prepare_uniform mixedBreaks
  exact ⟨hbreak, hdetect crlf (.inr hbreak), hdetect lf (.inr hbreak), htwice crlf lf⟩

end LineEnding

end Emend
