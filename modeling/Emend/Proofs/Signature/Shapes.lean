import Emend.Signature.Header
import Emend.Proofs.Pattern.Language
import Emend.Proofs.Unicode.Ascii
/-!
# Fronts of headers

The front of a header is what a shape takes of it.  An opening brace can be part of a front only
between angles, or between the parentheses of a modifier, because nothing else in the shapes takes
any character.  So the text before the brace leaves one of them open (`Guarded`, `LeavesOpen`), and
the front of a header whose angles and parentheses are closed does not go over the brace of the
body (`leavesOpen_of_guarded`).

This is shown by going through the parts of a shape.  What comes before an angle has no parentheses,
or those of a modifier (`Fronted`), and what comes after it takes no brace (`Free`).
-/

namespace Emend

open Pattern
open scoped Computability

variable {l m : Language Char} {c : Char}

/-! ## Texts without a character -/

/-- No text has the character. -/
def Free (c : Char) (l : Language Char) : Prop := ∀ w ∈ l, c ∉ w

namespace Free

theorem one : Free c 1 := fun w hw => by
  rw [Language.mem_one] at hw
  rw [hw]
  exact List.not_mem_nil

theorem text {t : Text} (h : c ∉ t) : Free c {t} := fun w hw => by
  rw [Set.mem_singleton_iff.1 hw]
  exact h

theorem chars {s : CharSet} (h : s.contains c = false) : Free c (charTexts s) := by
  rintro w ⟨d, hd, rfl⟩ hmem
  rw [List.mem_singleton.1 hmem, hd] at h
  cases h

theorem mul (hl : Free c l) (hm : Free c m) : Free c (l * m) := by
  intro w hw hmem
  obtain ⟨u, hu, v, hv, rfl⟩ := Language.mem_mul.1 hw
  exact (List.mem_append.1 hmem).elim (hl u hu) (hm v hv)

theorem add (hl : Free c l) (hm : Free c m) : Free c (l + m) :=
  fun w hw => ((Language.mem_add _ _ _).1 hw).elim (hl w) (hm w)

theorem kstar (hl : Free c l) : Free c l∗ := by
  intro w hw hmem
  obtain ⟨us, rfl, hus⟩ := Language.mem_kstar.1 hw
  obtain ⟨u, hu, hc⟩ := List.mem_flatten.1 hmem
  exact hl u (hus u hu) hc

theorem plus (hl : Free c l) : Free c (l * l∗) := hl.mul hl.kstar

theorem opt (hl : Free c l) : Free c (1 + l) := one.add hl

end Free

/-! ## What is left open -/

/-- A text leaves an angle open or a parenthesis.  Angles count only up to the first parenthesis,
unless there is one that restricts a modifier. -/
def LeavesOpen (t : Text) : Prop :=
  (∃ s r, t = s ++ '<' :: r ∧ ('(' ∈ s → "pub(".toList <:+: s) ∧ '>' ∉ r) ∨
    ∃ s r, t = s ++ '(' :: r ∧ ')' ∉ r

theorem exists_cut_iff {P : Text → Text → Prop} {t : Text} : (∃ s r, t = s ++ c :: r ∧ P s r) ↔
    ∃ i < t.length, t[i]? = some c ∧ P (t.take i) (t.drop (i + 1)) := by
  constructor
  · rintro ⟨s, r, rfl, h⟩
    exact ⟨s.length, by simp, by simp, by simpa using h⟩
  · rintro ⟨i, hi, hc, h⟩
    refine ⟨_, _, ?_, h⟩
    rw [List.getElem?_eq_getElem hi, Option.some.injEq] at hc
    rw [← hc, ← List.drop_eq_getElem_cons hi, List.take_append_drop]

instance decidableCut {P : Text → Text → Prop} [∀ s r, Decidable (P s r)] (t : Text) :
    Decidable (∃ s r, t = s ++ c :: r ∧ P s r) :=
  decidable_of_iff _ exists_cut_iff.symm

instance : DecidablePred LeavesOpen := fun _ => inferInstanceAs (Decidable (_ ∨ _))

theorem LeavesOpen.append {s t : Text} (h : LeavesOpen t) (hs : '(' ∈ s → "pub(".toList <:+: s) :
    LeavesOpen (s ++ t) := by
  rcases h with ⟨u, r, rfl, hu, hr⟩ | ⟨u, r, rfl, hr⟩
  · refine .inl ⟨s ++ u, r, (List.append_assoc _ _ _).symm, fun hmem => ?_, hr⟩
    rcases List.mem_append.1 hmem with hmem | hmem
    · exact (hs hmem).trans (List.infix_append' [] s u)
    · exact (hu hmem).trans (List.infix_append' s u [] |>.trans (by simp))
  · exact .inr ⟨s ++ u, r, (List.append_assoc _ _ _).symm, hr⟩

/-- Where a text of the language has an opening brace, something is open. -/
def Guarded (l : Language Char) : Prop := ∀ w ∈ l, ∀ s r, w = s ++ '{' :: r → LeavesOpen s

/-- A text of the language has parentheses only if it has some that restrict a modifier. -/
def Fronted (l : Language Char) : Prop := ∀ w ∈ l, '(' ∈ w → "pub(".toList <:+: w

theorem Free.fronted (h : Free '(' l) : Fronted l := fun w hw hmem => absurd hmem (h w hw)

theorem Free.guarded (h : Free '{' l) : Guarded l := by
  rintro w hw s r rfl
  exact absurd (List.mem_append_right s List.mem_cons_self) (h _ hw)

theorem Fronted.mul (hl : Fronted l) (hm : Fronted m) : Fronted (l * m) := by
  intro w hw hmem
  obtain ⟨u, hu, v, hv, rfl⟩ := Language.mem_mul.1 hw
  rcases List.mem_append.1 hmem with hmem | hmem
  · exact (hl u hu hmem).trans (List.prefix_append u v).isInfix
  · exact (hm v hv hmem).trans (List.suffix_append u v).isInfix

theorem Fronted.kstar (hl : Fronted l) : Fronted l∗ := by
  intro w hw hmem
  obtain ⟨us, rfl, hus⟩ := Language.mem_kstar.1 hw
  obtain ⟨u, hu, hc⟩ := List.mem_flatten.1 hmem
  exact (hl u (hus u hu) hc).trans (List.infix_of_mem_flatten hu)

/-- A character of two texts is in the one or in the other. -/
theorem append_eq_cut {u v s r : Text} (h : u ++ v = s ++ c :: r) :
    (∃ t, s = u ++ t ∧ v = t ++ c :: r) ∨ ∃ t, u = s ++ c :: t := by
  rcases List.append_eq_append_iff.1 h with ⟨t, hs, hv⟩ | ⟨t, hu, ht⟩
  · exact .inl ⟨t, hs, hv⟩
  · cases t with
    | nil =>
        refine .inl ⟨[], ?_, ht.symm⟩
        rw [hu, List.append_nil, List.append_nil]
    | cons d t =>
        cases ht
        exact .inr ⟨t, hu⟩

namespace Guarded

theorem mul (hfront : Fronted l) (hl : Guarded l) (hm : Guarded m) : Guarded (l * m) := by
  intro w hw s r hs
  obtain ⟨u, hu, v, hv, rfl⟩ := Language.mem_mul.1 hw
  rcases append_eq_cut hs with ⟨t, rfl, hv'⟩ | ⟨t, rfl⟩
  · exact (hm v hv t r hv').append (hfront u hu)
  · exact hl _ hu s t rfl

/-- What comes last may have parentheses if it takes no brace. -/
theorem mul_free (hl : Guarded l) (hm : Free '{' m) : Guarded (l * m) := by
  intro w hw s r hs
  obtain ⟨u, hu, v, hv, rfl⟩ := Language.mem_mul.1 hw
  rcases append_eq_cut hs with ⟨t, -, rfl⟩ | ⟨t, rfl⟩
  · exact absurd (List.mem_append_right t List.mem_cons_self) (hm _ hv)
  · exact hl _ hu s t rfl

theorem add (hl : Guarded l) (hm : Guarded m) : Guarded (l + m) :=
  fun w hw => ((Language.mem_add _ _ _).1 hw).elim (hl w) (hm w)

theorem kstar (hfront : Fronted l) (hl : Guarded l) : Guarded l∗ := by
  intro w hw s r hs
  obtain ⟨us, rfl, hus⟩ := Language.mem_kstar.1 hw
  clear hw
  induction us generalizing s with
  | nil => exact absurd hs (by simp)
  | cons u us ih =>
      obtain ⟨hu, hus⟩ := List.forall_mem_cons.1 hus
      rw [List.flatten_cons] at hs
      rcases append_eq_cut hs with ⟨t, rfl, ht⟩ | ⟨t, rfl⟩
      · exact (ih t hus ht).append (hfront u hu)
      · exact hl _ hu s t rfl

/-- A text of the language is continued by others up to a character that closes what it opens. -/
theorem between {opening : Char} {s : CharSet} {closing : Char}
    (hopening : opening ≠ '{') (hs : Free closing (charTexts s))
    (hopen : ∀ t, closing ∉ t → LeavesOpen (opening :: t)) (hclosing : closing ≠ '{') :
    Guarded ({[opening]} * ((charTexts s)∗ * {[closing]})) := by
  intro w hw t r ht
  obtain ⟨_, rfl, w', hw', rfl⟩ := Language.mem_mul.1 hw
  obtain ⟨v, hv, _, rfl, rfl⟩ := Language.mem_mul.1 hw'
  rcases append_eq_cut ht with ⟨t, rfl, hlater⟩ | ⟨t', ht'⟩
  · rcases append_eq_cut hlater with ⟨t', -, ht'⟩ | ⟨t', rfl⟩
    · have hmem : '{' ∈ [closing] := ht' ▸ List.mem_append_right t' List.mem_cons_self
      exact absurd (List.mem_singleton.1 hmem).symm hclosing
    · exact hopen t fun hmem => hs.kstar _ hv (List.mem_append_left _ hmem)
  · have hmem : '{' ∈ [opening] := ht' ▸ List.mem_append_right t List.mem_cons_self
    exact absurd (List.mem_singleton.1 hmem).symm hopening

end Guarded

/-! ## Modifiers -/

theorem contains_noneOf {chars : String} {c : Char} :
    (CharSet.ofList chars.toList).compl.contains c = false ↔ c ∈ chars.toList := by
  rw [← Bool.not_eq_true, CharSet.contains_compl (CharSet.valid_ofList _), not_not,
    CharSet.contains_ofList]

theorem literalForm_language (t : String) : (literalForm t).language = {t.toList} := rfl

theorem restrictedForm_language : restrictedForm.language =
    {"pub".toList} *
      (1 + {['(']} * ((charTexts (CharSet.ofList ")".toList).compl)∗ * {[')']})) := by
  rw [restrictedForm, Form.inRow_language]
  simp only [List.map_cons, List.map_nil, List.prod_cons, List.prod_nil, mul_one,
    Form.opt_language, Form.inRow_language, Form.star_language, literalForm_language]
  rfl

theorem guarded_restrictedForm : Guarded restrictedForm.language := by
  rw [restrictedForm_language]
  have hpub : ∀ c ∈ ['{', '('], Free c {"pub".toList} := by
    rintro c (_ | ⟨_, _ | ⟨_, ⟨⟩⟩⟩) <;> exact Free.text (by decide)
  refine .mul (hpub _ (by decide)).fronted (hpub _ (by decide)).guarded (.add Free.one.guarded ?_)
  refine .between (by decide) (.chars (contains_noneOf.2 (by decide))) (fun t ht => ?_) (by decide)
  exact .inr ⟨[], t, rfl, ht⟩

theorem fronted_restrictedForm : Fronted restrictedForm.language := by
  rw [restrictedForm_language]
  intro w hw hmem
  obtain ⟨u, rfl, v, hv, rfl⟩ := Language.mem_mul.1 hw
  rcases (Language.mem_add _ _ _).1 hv with hv | hv
  · rw [(Language.mem_one v).1 hv] at hmem
    exact absurd hmem (by decide)
  · obtain ⟨_, rfl, x, -, rfl⟩ := Language.mem_mul.1 hv
    exact ⟨[], x, by simp⟩

/-- A modifier is one of the words or the one that parentheses may restrict. -/
theorem mem_modifier {words : List String} {w : Text} :
    w ∈ (Form.eitherOf (words.map literalForm ++ [restrictedForm])).language ↔
      w ∈ words.map String.toList ∨ w ∈ restrictedForm.language := by
  rw [Form.mem_eitherOf]
  constructor
  · rintro ⟨f, hf, hw⟩
    rcases List.mem_append.1 hf with hf | hf
    · obtain ⟨m, hm, rfl⟩ := List.mem_map.1 hf
      exact .inl (List.mem_map.2 ⟨m, hm, Eq.symm hw⟩)
    · rw [List.mem_singleton.1 hf] at hw
      exact .inr hw
  · rintro (hw | hw)
    · obtain ⟨m, hm, rfl⟩ := List.mem_map.1 hw
      exact ⟨literalForm m, List.mem_append_left _ (List.mem_map_of_mem hm), rfl⟩
    · exact ⟨restrictedForm, List.mem_append_right _ (List.mem_singleton_self _), hw⟩

/-! ## Ends of fronts -/

/-- The texts of the language end with a character of some kind. -/
def Ends (p : Char → Prop) (l : Language Char) : Prop := ∀ w ∈ l, ∃ u c, w = u ++ [c] ∧ p c

namespace Ends

variable {p : Char → Prop}

theorem text {d : Char} (hd : p d) : Ends p {[d]} := fun _ hw => ⟨[], d, hw, hd⟩

theorem chars {s : CharSet} (hs : ∀ c, s.contains c = true → p c) : Ends p (charTexts s) := by
  rintro w ⟨d, hd, rfl⟩
  exact ⟨[], d, rfl, hs d hd⟩

theorem mul (hm : Ends p m) : Ends p (l * m) := by
  intro w hw
  obtain ⟨u, -, v, hv, rfl⟩ := Language.mem_mul.1 hw
  obtain ⟨v, d, rfl, hd⟩ := hm v hv
  exact ⟨u ++ v, d, (List.append_assoc _ _ _).symm, hd⟩

theorem plus (hl : Ends p l) : Ends p (l * l∗) := by
  rw [← Language.mul_self_kstar_comm]
  exact hl.mul

theorem mul_opt (hl : Ends p l) (hm : Ends p m) : Ends p (l * (1 + m)) := by
  rw [mul_add, mul_one]
  exact fun w hw => ((Language.mem_add _ _ _).1 hw).elim (hl w) (hm.mul w)

end Ends

/-! ## Shapes -/

namespace Alphabet

/-- Words and blanks have none of the characters that delimit parts of a header, and a space is no
part of a word. -/
structure Usual (a : Alphabet) : Prop where
  /-- The characters of words are given by ranges in order. -/
  valid : CharSet.Valid a.word.ranges
  /-- Words have no delimiters. -/
  word : ∀ c ∈ [' ', '(', '{'], a.word.contains c = false
  /-- Blanks are no delimiters. -/
  space : ∀ c ∈ ['(', '{'], a.space.contains c = false

theorem usual_unicode : unicode.Usual where
  valid := CharSet.valid_wordChars
  word c hc := by
    obtain ⟨_⟩ | ⟨_, _ | ⟨_, _ | ⟨_, ⟨⟩⟩⟩⟩ := hc <;>
      rw [← Bool.not_eq_true, unicode, Pattern.wordSet, CharSet.contains_wordChars (by decide)] <;>
      decide
  space c hc := by
    obtain ⟨_⟩ | ⟨_, _ | ⟨_, ⟨⟩⟩⟩ := hc <;>
      rw [← Bool.not_eq_true, unicode, Pattern.spaceSet, CharSet.contains_spaceChars (by decide)] <;>
      decide

variable {a : Alphabet} (ha : a.Usual)

section Parts

variable {c : Char} (hc : c ∈ ['(', '{'])

include ha hc

theorem free_blanksForm : Free c a.blanksForm.language := by
  rw [blanksForm, Form.star_language]
  exact (Free.chars (ha.space c hc)).kstar

theorem free_someBlanksForm : Free c a.someBlanksForm.language := by
  rw [someBlanksForm, Form.plus_language]
  exact (Free.chars (ha.space c hc)).plus

theorem free_identifierForm : Free c a.identifierForm.language := by
  rw [identifierForm, Form.plus_language]
  exact (Free.chars (ha.word c (List.mem_cons_of_mem _ hc))).plus

theorem free_wordOr {chars : String} (hchars : c ∉ chars.toList) :
    Free c (a.wordOr chars).language := by
  refine Free.chars (s := a.word.union (CharSet.ofList chars.toList)) ?_
  rw [← Bool.not_eq_true, CharSet.contains_union ha.valid (CharSet.valid_ofList _),
    ha.word c (List.mem_cons_of_mem _ hc), CharSet.contains_ofList]
  simpa using hchars

end Parts

include ha

/-- Modifiers take a brace only between parentheses, and have no others. -/
theorem guarded_headerStart {words : List String}
    (hwords : ∀ w ∈ words, '(' ∉ w.toList ∧ '{' ∉ w.toList) :
    Guarded (a.headerStart words).language ∧ Fronted (a.headerStart words).language := by
  have heither : ∀ {P : Text → Prop}, (∀ w ∈ words, P w.toList) →
      (∀ w ∈ restrictedForm.language, P w) →
        ∀ w ∈ (Form.eitherOf (words.map literalForm ++ [restrictedForm])).language, P w := by
    intro P hliteral hrestricted w hw
    rcases mem_modifier.1 hw with hw | hw
    · obtain ⟨m, hm, rfl⟩ := List.mem_map.1 hw
      exact hliteral m hm
    · exact hrestricted w hw
  have hlanguage : (a.headerStart words).language =
      ((Form.eitherOf (words.map literalForm ++ [restrictedForm])).language *
        a.someBlanksForm.language)∗ := by
    rw [headerStart, Form.inRow_language, modifiersForm]
    simp only [List.map_cons, List.map_nil, List.prod_cons, List.prod_nil, mul_one]
    exact (one_mul _).trans (by rw [Form.language, Form.star_language, Form.inRow_language]; simp)
  have hopening := free_someBlanksForm ha (c := '(') (by decide)
  have hbrace := free_someBlanksForm ha (c := '{') (by decide)
  have hfront : Fronted (Form.eitherOf (words.map literalForm ++ [restrictedForm])).language :=
    heither (fun w hw hmem => absurd hmem (hwords w hw).1) fronted_restrictedForm
  have hguard : Guarded (Form.eitherOf (words.map literalForm ++ [restrictedForm])).language := by
    refine heither (fun w hw s r hs => ?_) guarded_restrictedForm
    exact absurd (hs ▸ List.mem_append_right s List.mem_cons_self) (hwords w hw).2
  rw [hlanguage]
  have hpart := hfront.mul hopening.fronted
  exact ⟨.kstar hpart (.mul hfront hguard hbrace.guarded), hpart.kstar⟩

omit ha in
theorem guarded_angles (chars : String) (hchars : '>' ∈ chars.toList) :
    Guarded (Form.inRow [literalForm "<", .star (noneOf chars), literalForm ">"]).language := by
  rw [Form.inRow_language]
  simp only [List.map_cons, List.map_nil, List.prod_cons, List.prod_nil, mul_one,
    Form.star_language]
  refine .between (by decide) (.chars (contains_noneOf.2 hchars)) (fun t ht => ?_) (by decide)
  exact .inl ⟨[], t, rfl, by simp, ht⟩

omit ha in
theorem guarded_opt {f : Form} (hf : Guarded f.language) : Guarded f.opt.language := by
  rw [Form.opt_language]
  exact .add Free.one.guarded hf

omit ha in
theorem free_opt {f : Form} (hf : Free c f.language) : Free c f.opt.language := by
  rw [Form.opt_language]
  exact hf.opt

omit ha in
theorem words_functionModifiers :
    ∀ w ∈ functionModifiers, '(' ∉ w.toList ∧ '{' ∉ w.toList := by decide

omit ha in
theorem words_classModifiers : ∀ w ∈ classModifiers, '(' ∉ w.toList ∧ '{' ∉ w.toList := by decide

/-- A word and the blanks after it have neither braces nor parentheses. -/
theorem guarded_word {word : Language Char} (hopening : Free '(' word) (hbrace : Free '{' word)
    (hl : Guarded l) : Guarded (word * (a.someBlanksForm.language * l)) := by
  have hblanks := free_someBlanksForm ha (c := '(') (by decide)
  refine .mul hopening.fronted hbrace.guarded (.mul hblanks.fronted (Free.guarded ?_) hl)
  exact free_someBlanksForm ha (by decide)

theorem guarded_funForm : Guarded a.funForm.language ∧ Ends (· = '(') a.funForm.language := by
  obtain ⟨hmodifiers, hfront⟩ := guarded_headerStart ha words_functionModifiers
  have hblanks := free_blanksForm ha (c := '{') (by decide)
  have hname := free_identifierForm ha (c := '{') (by decide)
  have hangles : Guarded (Form.opt (.inRow [anglesForm, a.blanksForm])).language := by
    refine guarded_opt ?_
    rw [Form.inRow_language]
    exact (guarded_angles ">" (by decide)).mul_free (hblanks.mul .one)
  have hreceiver : Free '{'
      (Form.opt (.inRow [.plus (a.wordOr "<>?,. "), literalForm "."])).language := by
    refine free_opt ?_
    rw [Form.inRow_language]
    simp only [List.map_cons, Form.plus_language]
    exact (free_wordOr ha (by decide) (by decide)).plus.mul (.mul (.text (by decide)) .one)
  rw [funForm, Form.inRow_language]
  simp only [List.map_cons, List.map_nil, List.prod_cons, List.prod_nil]
  constructor
  · refine .mul hfront hmodifiers (guarded_word ha (.text (by decide)) (.text (by decide)) ?_)
    exact hangles.mul_free
      (hreceiver.mul (.mul hname (.mul hblanks (.mul (.text (by decide)) .one))))
  · rw [mul_one]
    exact .mul (.mul (.mul (.mul (.mul (.mul (.mul (.text rfl)))))))

theorem guarded_fnForm : Guarded a.fnForm.language ∧ Ends (· = '(') a.fnForm.language := by
  obtain ⟨hmodifiers, hfront⟩ := guarded_headerStart ha words_functionModifiers
  have hblanks := free_blanksForm ha (c := '{') (by decide)
  have hname := free_identifierForm ha (c := '{') (by decide)
  have hname' := free_identifierForm ha (c := '(') (by decide)
  have hblanks' := free_blanksForm ha (c := '(') (by decide)
  have hangles : Guarded anglesForm.opt.language := guarded_opt (guarded_angles _ (by decide))
  rw [fnForm, Form.inRow_language]
  simp only [List.map_cons, List.map_nil, List.prod_cons, List.prod_nil]
  constructor
  · refine .mul hfront hmodifiers (guarded_word ha (.text (by decide)) (.text (by decide)) ?_)
    refine .mul hname'.fronted hname.guarded (.mul hblanks'.fronted hblanks.guarded ?_)
    exact hangles.mul_free (hblanks.mul (.mul (.text (by decide)) .one))
  · rw [mul_one]
    exact .mul (.mul (.mul (.mul (.mul (.mul (.mul (.text rfl)))))))

theorem guarded_typedForm : Guarded a.typedForm.language ∧ Ends (· = '(') a.typedForm.language := by
  obtain ⟨hmodifiers, hfront⟩ := guarded_headerStart ha words_functionModifiers
  have hblanks := free_blanksForm ha (c := '{') (by decide)
  have hname := free_identifierForm ha (c := '{') (by decide)
  have hmark : Free '{' (oneOf "*&").opt.language := free_opt (.chars (by decide))
  have hbrackets : Free '{' (Form.star (literalForm "[]")).language := by
    rw [Form.star_language]
    exact (Free.text (by decide)).kstar
  have hangles := guarded_opt (guarded_angles ">()" (by decide))
  have htype : Guarded (Form.inRow [.plus (a.wordOr ".:"),
      .opt (.inRow [literalForm "<", .star (noneOf ">()"), literalForm ">"]),
      .star (literalForm "[]"), .opt (oneOf "*&")]).language := by
    rw [Form.inRow_language]
    simp only [List.map_cons, List.map_nil, List.prod_cons, List.prod_nil, Form.plus_language]
    refine .mul (free_wordOr ha (by decide) (by decide)).plus.fronted
      (free_wordOr ha (by decide) (by decide)).plus.guarded ?_
    exact hangles.mul_free (hbrackets.mul (hmark.mul .one))
  rw [typedForm, Form.inRow_language]
  simp only [List.map_cons, List.map_nil, List.prod_cons, List.prod_nil]
  constructor
  · refine .mul hfront hmodifiers (htype.mul_free (.mul (free_someBlanksForm ha (by decide)) ?_))
    exact hmark.mul (.mul hname (.mul hblanks (.mul (.text (by decide)) .one)))
  · rw [mul_one]
    exact .mul (.mul (.mul (.mul (.mul (.mul (.text rfl))))))

theorem free_classKeyword {c : Char} (hc : c ∈ ['(', '{']) : Free c (Form.eitherOf [
    literalForm "class", literalForm "interface", literalForm "struct", literalForm "object",
    .inRow [literalForm "enum", .opt (.inRow [a.someBlanksForm, literalForm "class"])],
    literalForm "trait", literalForm "record"]).language := by
  have hword : ∀ w ∈ ["class", "interface", "struct", "object", "enum", "trait", "record"],
      c ∉ w.toList := by
    obtain ⟨_⟩ | ⟨_, _ | ⟨_, ⟨⟩⟩⟩ := hc <;> decide
  have hliteral : ∀ w ∈ ["class", "interface", "struct", "object", "enum", "trait", "record"],
      Free c (literalForm w).language := fun w hw => Free.text (hword w hw)
  have hclass : Free c (Form.inRow [a.someBlanksForm, literalForm "class"]).language := by
    rw [Form.inRow_language]
    exact (free_someBlanksForm ha hc).mul (.mul (hliteral _ (by decide)) .one)
  have henum : Free c (Form.inRow [literalForm "enum",
      .opt (.inRow [a.someBlanksForm, literalForm "class"])]).language := by
    rw [Form.inRow_language]
    exact (hliteral _ (by decide)).mul (.mul (free_opt hclass) .one)
  intro w hw
  obtain ⟨f, hf, hw⟩ := Form.mem_eitherOf.1 hw
  revert f
  simp only [List.forall_mem_cons, List.not_mem_nil, false_implies, implies_true, and_true]
  exact ⟨hliteral _ (by decide) w, hliteral _ (by decide) w, hliteral _ (by decide) w,
    hliteral _ (by decide) w, henum w, hliteral _ (by decide) w, hliteral _ (by decide) w⟩

theorem guarded_classForm : Guarded a.classForm.language ∧ Ends (· ≠ ' ') a.classForm.language := by
  obtain ⟨hmodifiers, hfront⟩ := guarded_headerStart ha words_classModifiers
  have hkeyword := fun c hc => free_classKeyword ha (c := c) hc
  have hname := free_identifierForm ha (c := '{') (by decide)
  have hname' := free_identifierForm ha (c := '(') (by decide)
  have hblanks := free_blanksForm ha (c := '{') (by decide)
  have hblanks' := free_blanksForm ha (c := '(') (by decide)
  have hparts : (Form.inRow [a.blanksForm, literalForm "<", .group 3 (.star (noneOf ">")),
      literalForm ">"]).language =
        a.blanksForm.language * (Form.inRow [literalForm "<", .star (noneOf ">"),
          literalForm ">"]).language := by
    rw [Form.inRow_language, Form.inRow_language]
    rfl
  have hangles : Guarded (Form.inRow [a.blanksForm, literalForm "<",
      .group 3 (.star (noneOf ">")), literalForm ">"]).language := by
    rw [hparts]
    exact .mul hblanks'.fronted hblanks.guarded (guarded_angles _ (by decide))
  have hsolid : Ends (· ≠ ' ') (a.identifierForm.language * (Form.opt (.inRow [a.blanksForm,
      literalForm "<", .group 3 (.star (noneOf ">")), literalForm ">"])).language) := by
    rw [Form.opt_language, identifierForm, Form.plus_language, hparts, Form.inRow_language]
    have hspace := ha.word ' ' (by decide)
    refine .mul_opt (.plus (.chars fun c hc => ?_)) ?_
    · rintro rfl
      exact Bool.noConfusion (hspace.symm.trans hc)
    simp only [List.map_cons, List.map_nil, List.prod_cons, List.prod_nil, mul_one]
    exact .mul (.mul (.mul (.text (by decide))))
  rw [classForm, Form.inRow_language]
  simp only [List.map_cons, List.map_nil, List.prod_cons, List.prod_nil, mul_one]
  constructor
  · refine .mul hfront hmodifiers
      (guarded_word ha (hkeyword _ (by decide)) (hkeyword _ (by decide)) ?_)
    exact .mul hname'.fronted hname.guarded (guarded_opt hangles)
  · exact .mul (.mul (.mul hsolid))

end Alphabet

/-! ## Braces after a header -/

/-- A front that takes the brace after a text leaves something open in it. -/
theorem leavesOpen_of_guarded (hguard : Guarded l) (hsolid : Ends (· ≠ ' ') l) {t u rest : Text}
    (hu : u <+: '{' :: rest) (h : t ++ ' ' :: u ∈ l) : LeavesOpen t := by
  cases u with
  | nil =>
      obtain ⟨s, d, hs, hd⟩ := hsolid _ h
      exact absurd (List.append_inj_right' hs rfl) (by simpa using hd.symm)
  | cons d u =>
      obtain ⟨rfl, -⟩ := List.cons_prefix_cons.1 hu
      have hopen := hguard _ h (t ++ [' ']) u (by simp)
      have hspace : ∀ {s r : Text} {c : Char}, c ≠ ' ' → t ++ [' '] = s ++ c :: r →
          ∃ r', t = s ++ c :: r' ∧ r = r' ++ [' '] := by
        intro s r c hc heq
        rcases append_eq_cut heq with ⟨s', -, hs'⟩ | ⟨r', rfl⟩
        · have hmem : c ∈ [' '] := hs' ▸ List.mem_append_right s' List.mem_cons_self
          exact absurd (List.mem_singleton.1 hmem) hc
        · refine ⟨r', rfl, ?_⟩
          simpa using heq.symm
      rcases hopen with ⟨s, r, heq, hs, hr⟩ | ⟨s, r, heq, hr⟩
      · obtain ⟨r', rfl, rfl⟩ := hspace (by decide) heq
        exact .inl ⟨s, r', rfl, hs, fun hmem => hr (List.mem_append_left _ hmem)⟩
      · obtain ⟨r', rfl, rfl⟩ := hspace (by decide) heq
        exact .inr ⟨s, r', rfl, fun hmem => hr (List.mem_append_left _ hmem)⟩

end Emend
