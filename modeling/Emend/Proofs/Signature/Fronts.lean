import Emend.Proofs.Pattern.Finds
import Emend.Proofs.Pattern.Traces
import Emend.Proofs.Signature.Declared
import Emend.Proofs.Signature.Headers
/-!
# Fronts of functions with the keyword `fun`

The front of such a function is its modifiers, the keyword, its name and the opening parenthesis,
with one space between two words (`frontText`).

*Paths.*  A path through the shape takes modifiers, the keyword with what may follow it, a name and
the opening parenthesis, and notes the places of the first and the third (`mem_paths_funForm`).

*Reading a front.*  A text that starts with a front is taken apart by the shape in one way only
(`front_unique`).  Words and blanks have no characters in common, so each word that a path takes is
the next word of the front.  Of these the modifiers are none but the modifiers, and since a name has
no dot and no angle, nothing is taken between the keyword and the name.

So the front of the text is found, with its parts in the groups (`find_front`).
-/

namespace Emend

open Pattern
open scoped Computability

/-! ## Runs of characters -/

section Runs

variable {p : Char → Prop} {x y r s : Text}

/-- A text starts in one way with the longest run of characters of some kind. -/
theorem run_unique (hx : ∀ c ∈ x, p c) (hy : ∀ c ∈ y, p c) (hr : ∀ c ∈ r.head?, ¬ p c)
    (hs : ∀ c ∈ s.head?, ¬ p c) (h : x ++ r = y ++ s) : x = y ∧ r = s := by
  -- What one run has more than the other would be the head of what follows this.
  have hlonger : ∀ {x t r : Text},
      (∀ c ∈ x ++ t, p c) → (∀ c ∈ (t ++ r).head?, ¬ p c) → t = [] := by
    intro x t r hall hhead
    cases t with
    | nil => rfl
    | cons c t => exact absurd (hall c (by simp)) (hhead c rfl)
  rcases List.append_eq_append_iff.1 h with ⟨t, rfl, rfl⟩ | ⟨t, rfl, rfl⟩
  · have ht := hlonger hy hr
    subst ht
    simp
  · have ht := hlonger hx hs
    subst ht
    simp

/-- Blanks before what is not blank are the space if a space is there. -/
theorem blanks_unique (hx : x ≠ []) (hblank : ∀ c ∈ x, isBlank c = true)
    (hs : ∀ c ∈ s.head?, ¬ isBlank c = true) (h : x ++ r = ' ' :: s) : x = [' '] ∧ r = s := by
  obtain ⟨c, x, rfl⟩ := List.exists_cons_of_ne_nil hx
  obtain ⟨rfl, hrest⟩ := List.cons_eq_cons.1 h
  cases x with
  | nil => exact ⟨rfl, hrest⟩
  | cons d x =>
      have hd : isBlank d = true := hblank d (by simp)
      have hhead : s.head? = some d := by rw [← hrest]; rfl
      exact absurd hd (hs d hhead)

end Runs

/-! ## Texts of sets -/

theorem mem_kstar_charTexts {s : CharSet} {w : Text} :
    w ∈ (charTexts s)∗ ↔ ∀ c ∈ w, s.contains c = true := by
  constructor
  · intro h c hc
    obtain ⟨us, rfl, hus⟩ := Language.mem_kstar.1 h
    obtain ⟨u, hu, hcu⟩ := List.mem_flatten.1 hc
    obtain ⟨d, hd, rfl⟩ := hus u hu
    rwa [List.mem_singleton.1 hcu]
  · intro h
    have hflatten : w = (w.map fun c => [c]).flatten := by
      rw [← List.flatMap_def, List.flatMap_singleton']
    refine Language.mem_kstar.2 ⟨_, hflatten, fun y hy => ?_⟩
    obtain ⟨c, hc, rfl⟩ := List.mem_map.1 hy
    exact ⟨c, h c hc, rfl⟩

theorem mem_plus_charTexts {s : CharSet} {w : Text} :
    w ∈ charTexts s * (charTexts s)∗ ↔ w ≠ [] ∧ ∀ c ∈ w, s.contains c = true := by
  constructor
  · intro h
    obtain ⟨_, ⟨c, hc, rfl⟩, v, hv, rfl⟩ := Language.mem_mul.1 h
    exact ⟨by simp, List.forall_mem_cons.2 ⟨hc, mem_kstar_charTexts.1 hv⟩⟩
  · rintro ⟨hne, h⟩
    obtain ⟨c, v, rfl⟩ := List.exists_cons_of_ne_nil hne
    obtain ⟨hc, hv⟩ := List.forall_mem_cons.1 h
    exact Language.append_mem_mul (a := [c]) ⟨c, hc, rfl⟩ (mem_kstar_charTexts.2 hv)

namespace Alphabet

theorem mem_someBlanksForm {w : Text} : w ∈ unicode.someBlanksForm.language ↔
    w ≠ [] ∧ ∀ c ∈ w, isBlank c = true := by
  rw [someBlanksForm, Form.plus_language]
  refine mem_plus_charTexts.trans (and_congr_right fun _ => forall₂_congr fun c _ => ?_)
  exact CharSet.contains_spaceChars_iff

theorem mem_blanksForm {w : Text} : w ∈ unicode.blanksForm.language ↔
    ∀ c ∈ w, isBlank c = true := by
  rw [blanksForm, Form.star_language]
  refine mem_kstar_charTexts.trans (forall₂_congr fun c _ => ?_)
  exact CharSet.contains_spaceChars_iff

theorem mem_identifierForm {w : Text} : w ∈ unicode.identifierForm.language ↔ IsIdentifier w := by
  have hword : unicode.word = Pattern.wordSet := by rw [unicode]
  rw [identifierForm, Form.plus_language, Form.language, mem_plus_charTexts, hword]
  exact ⟨fun h => ⟨h.1, h.2⟩, fun h => ⟨h.ne_nil, h.chars⟩⟩

end Alphabet

/-! ## Modifiers -/

/-- The modifiers of functions, but for the one that parentheses restrict. -/
def plainModifiers : List Text := functionModifiers.map String.toList ++ ["pub".toList]

/-- The keyword. -/
def funWord : Text := "fun".toList

theorem isIdentifier_funWord : IsIdentifier funWord :=
  isIdentifier_of_lower (by decide) (by decide)

theorem isIdentifier_of_mem_plainModifiers : ∀ m ∈ plainModifiers, IsIdentifier m := by
  have hwords : ∀ m ∈ plainModifiers, m ≠ [] ∧ m.all Char.isLower = true := by decide
  exact fun m hm => isIdentifier_of_lower (hwords m hm).1 (hwords m hm).2

theorem funWord_notMem_plainModifiers : funWord ∉ plainModifiers := by decide

/-- A modifier is a word or starts with a parenthesis after its word. -/
theorem modifier_cases {x : Text}
    (h : x ∈ (Form.eitherOf (functionModifiers.map literalForm ++ [restrictedForm])).language) :
    x ∈ plainModifiers ∨ "pub(".toList <+: x := by
  rcases mem_modifier.1 h with h | h
  · exact .inl (List.mem_append_left _ h)
  · rw [restrictedForm_language] at h
    obtain ⟨_, rfl, v, hv, rfl⟩ := Language.mem_mul.1 h
    rcases (Language.mem_add _ _ _).1 hv with hv | hv
    · rw [(Language.mem_one v).1 hv, List.append_nil]
      exact .inl (List.mem_append_right _ (List.mem_singleton_self _))
    · obtain ⟨_, rfl, y, -, rfl⟩ := Language.mem_mul.1 hv
      exact .inr ⟨y, rfl⟩

theorem modifier_of_mem {x : Text} (h : x ∈ plainModifiers) :
    x ∈ (Form.eitherOf (functionModifiers.map literalForm ++ [restrictedForm])).language := by
  refine mem_modifier.2 ((List.mem_append.1 h).imp_right fun hx => ?_)
  rw [List.mem_singleton.1 hx, restrictedForm_language]
  exact ⟨_, rfl, [], .inl rfl, List.append_nil _⟩

/-! ## Paths -/

/-- A modifier and the blanks after it. -/
def modifierForm : Form :=
  .inRow [.eitherOf (functionModifiers.map literalForm ++ [restrictedForm]),
    Alphabet.unicode.someBlanksForm]

/-- The keyword and what may stand between it and the name. -/
def keywordForm : Form :=
  .inRow [literalForm "fun", Alphabet.unicode.someBlanksForm,
    .opt (.inRow [anglesForm, Alphabet.unicode.blanksForm]),
    .opt (.inRow [.plus (Alphabet.unicode.wordOr "<>?,. "), literalForm "."])]

/-- The parenthesis and the blanks before it. -/
def openingForm : Form := .inRow [Alphabet.unicode.blanksForm, literalForm "("]

/-- The path that takes the parts of a front. -/
def trail (row keyword name opening : Text) : List Step :=
  .check (.wordEdge Alphabet.unicode.word) :: .note 2 :: (row.map .take ++
    .note 3 :: (keyword.map .take ++ .note 4 :: (name.map .take ++ .note 5 :: opening.map .take)))

theorem paths_headerStart : (Alphabet.unicode.headerStart functionModifiers).paths =
    {[.check (.wordEdge Alphabet.unicode.word)]} *
      ({[.note 2]} * (Language.map .take modifierForm.star.language * {[.note 3]})) := by
  have hbare : modifierForm.star.isBare = true := rfl
  rw [← Form.paths_of_isBare hbare, Alphabet.headerStart, Form.paths, Form.wordsOver_inRow]
  simp only [List.map_cons, List.map_nil, List.prod_cons, List.prod_nil, mul_one]
  rfl

theorem paths_funForm : Alphabet.unicode.funForm.paths =
    {[.check (.wordEdge Alphabet.unicode.word)]} * ({[.note 2]} *
      (Language.map .take modifierForm.star.language * ({[.note 3]} *
        (Language.map .take keywordForm.language * ({[.note 4]} *
          (Language.map .take Alphabet.unicode.identifierForm.language * ({[.note 5]} *
            Language.map .take openingForm.language))))))) := by
  have hkeyword : keywordForm.isBare = true := rfl
  have hname : Alphabet.unicode.identifierForm.isBare = true := rfl
  have hopening : openingForm.isBare = true := rfl
  have hgroup : (Form.group 2 Alphabet.unicode.identifierForm).paths =
      {[.note 4]} * (Alphabet.unicode.identifierForm.paths * {[.note 5]}) := rfl
  rw [← Form.paths_of_isBare hkeyword, ← Form.paths_of_isBare hname,
    ← Form.paths_of_isBare hopening, Alphabet.funForm, keywordForm, openingForm]
  simp only [Form.paths, Form.wordsOver_inRow, List.map_cons, List.map_nil, List.prod_cons,
    List.prod_nil, mul_one] at hgroup ⊢
  rw [← Form.paths, paths_headerStart, hgroup]
  simp only [mul_assoc]

/-- A path takes modifiers, the keyword, a name and the parenthesis. -/
theorem mem_paths_funForm {w : List Step} : w ∈ Alphabet.unicode.funForm.paths ↔
    ∃ row ∈ modifierForm.star.language, ∃ keyword ∈ keywordForm.language,
      ∃ name, IsIdentifier name ∧
        ∃ opening ∈ openingForm.language, trail row keyword name opening = w := by
  simp only [paths_funForm, mem_step_mul, mem_take_mul, mem_take, Alphabet.mem_identifierForm]
  simp only [exists_exists_and_exists_and_eq_and, exists_exists_and_eq_and]
  constructor
  · rintro ⟨row, hrow, _, ⟨keyword, hkeyword, name, hname, opening, hopening, rfl⟩, hw⟩
    exact ⟨row, hrow, keyword, hkeyword, name, hname, opening, hopening, hw⟩
  · rintro ⟨row, hrow, keyword, hkeyword, name, hname, opening, hopening, hw⟩
    exact ⟨row, hrow, _, ⟨keyword, hkeyword, name, hname, opening, hopening, rfl⟩, hw⟩

/-! ## Reading a front -/

/-- Modifiers with a space after each. -/
def rowText (modifiers : List Text) : Text := modifiers.flatMap (· ++ [' '])

theorem rowText_cons (m : Text) (modifiers : List Text) :
    rowText (m :: modifiers) = m ++ ' ' :: rowText modifiers := by
  rw [rowText, List.flatMap_cons, List.append_assoc]
  rfl

/-- The front of a function up to the parenthesis that opens its parameters. -/
def frontText (modifiers : List Text) (name : Text) : Text :=
  rowText modifiers ++ (funWord ++ [' ']) ++ name ++ ['(']

section Reading

variable {name name' row keyword opening x b u v rest : Text} {modifiers : List Text}

theorem not_isWordChar_blank (hne : b ≠ []) (hblank : ∀ c ∈ b, isBlank c = true) :
    ∀ c ∈ (b ++ v).head?, ¬ IsWordChar c := by
  intro c hc hword
  obtain ⟨d, b, rfl⟩ := List.exists_cons_of_ne_nil hne
  cases hc
  exact hword.not_isBlank (hblank _ List.mem_cons_self)

theorem IsIdentifier.not_isBlank_head (h : IsIdentifier name) :
    ∀ c ∈ (name ++ v).head?, ¬ isBlank c = true := by
  intro c hc
  obtain ⟨d, t, rfl⟩ := List.exists_cons_of_ne_nil h.ne_nil
  cases hc
  exact h.solid _ List.mem_cons_self

theorem not_isWordChar_cons {d : Char} (hd : d ∈ separators) :
    ∀ c ∈ (d :: v).head?, ¬ IsWordChar c := by
  rintro c ⟨⟩
  exact not_isWordChar_separator _ hd

/-- A modifier and blanks are the next word and its space. -/
theorem modifier_unique (hx : x ∈ plainModifiers ∨ "pub(".toList <+: x) (hb : b ≠ [])
    (hblank : ∀ c ∈ b, isBlank c = true) (hname : IsIdentifier name)
    (hrest : ∀ c ∈ rest.head?, ¬ isBlank c = true) (h : x ++ b ++ v = name ++ ' ' :: rest) :
    x = name ∧ x ∈ plainModifiers ∧ b = [' '] ∧ v = rest := by
  rw [List.append_assoc] at h
  rcases hx with hx | ⟨y, rfl⟩
  · obtain ⟨rfl, hlater⟩ := run_unique (isIdentifier_of_mem_plainModifiers x hx).chars hname.chars
      (not_isWordChar_blank hb hblank) (not_isWordChar_cons (by decide)) h
    obtain ⟨rfl, rfl⟩ := blanks_unique hb hblank hrest hlater
    exact ⟨rfl, hx, rfl, rfl⟩
  · -- The parenthesis would be the space.
    have hpub : IsIdentifier "pub".toList := isIdentifier_of_lower (by decide) (by decide)
    have hsplit : "pub(".toList ++ y ++ (b ++ v) = "pub".toList ++ '(' :: (y ++ (b ++ v)) := by simp
    rw [hsplit] at h
    obtain ⟨-, hlater⟩ := run_unique hpub.chars hname.chars (not_isWordChar_cons (by decide))
      (not_isWordChar_cons (by decide)) h
    cases hlater

theorem mem_modifierForm (h : u ∈ modifierForm.language) :
    ∃ x b, u = x ++ b ∧ (x ∈ plainModifiers ∨ "pub(".toList <+: x) ∧ b ≠ [] ∧
      ∀ c ∈ b, isBlank c = true := by
  rw [modifierForm, Form.inRow_language] at h
  simp only [List.map_cons, List.map_nil, List.prod_cons, List.prod_nil, mul_one] at h
  obtain ⟨x, hx, b, hb, rfl⟩ := Language.mem_mul.1 h
  obtain ⟨hne, hblank⟩ := Alphabet.mem_someBlanksForm.1 hb
  exact ⟨x, b, rfl, modifier_cases hx, hne, hblank⟩

theorem mem_keywordForm (h : keyword ∈ keywordForm.language) :
    ∃ b angles receiver, keyword = funWord ++ (b ++ (angles ++ receiver)) ∧ b ≠ [] ∧
      (∀ c ∈ b, isBlank c = true) ∧ (angles = [] ∨ angles.head? = some '<') ∧
        (receiver = [] ∨ ∃ r, receiver = r ++ ['.'] ∧ '(' ∉ r) := by
  rw [keywordForm, Form.inRow_language] at h
  simp only [List.map_cons, List.map_nil, List.prod_cons, List.prod_nil, mul_one,
    Form.opt_language, Form.inRow_language] at h
  obtain ⟨_, rfl, _, ⟨b, hb, _, ⟨angles, hangles, receiver, hreceiver, rfl⟩, rfl⟩, rfl⟩ := h
  obtain ⟨hne, hblank⟩ := Alphabet.mem_someBlanksForm.1 hb
  have hfree : Free '(' (Alphabet.unicode.wordOr "<>?,. ").plus.language := by
    rw [Form.plus_language]
    exact (Alphabet.free_wordOr Alphabet.usual_unicode (by decide) (by decide)).plus
  refine ⟨b, angles, receiver, rfl, hne, hblank, hangles.imp (Language.mem_one _).1 ?_,
    hreceiver.imp (Language.mem_one _).1 ?_⟩
  · rintro ⟨a, ha, s, -, rfl⟩
    rw [anglesForm, Form.inRow_language] at ha
    obtain ⟨_, rfl, a, -, rfl⟩ := ha
    rfl
  · rintro ⟨r, hr, _, rfl, rfl⟩
    exact ⟨r, rfl, hfree r hr⟩

theorem mem_openingForm (h : opening ∈ openingForm.language) :
    ∃ b, opening = b ++ ['('] ∧ ∀ c ∈ b, isBlank c = true := by
  rw [openingForm, Form.inRow_language] at h
  simp only [List.map_cons, List.map_nil, List.prod_cons, List.prod_nil, mul_one] at h
  obtain ⟨b, hb, _, rfl, rfl⟩ := h
  exact ⟨b, rfl, Alphabet.mem_blanksForm.1 hb⟩

/-- Nothing stands between the keyword and a name with its parenthesis. -/
theorem between_eq_nil {angles receiver : Text} (hname : IsIdentifier name)
    (hangles : angles = [] ∨ angles.head? = some '<')
    (hreceiver : receiver = [] ∨ ∃ r, receiver = r ++ ['.'] ∧ '(' ∉ r)
    (h : angles ++ (receiver ++ v) = name ++ '(' :: rest) : angles = [] ∧ receiver = [] := by
  -- Angles do not start as a name does.
  have hnone : angles = [] := by
    refine hangles.resolve_right fun hhead => ?_
    obtain ⟨a, rfl⟩ := List.head?_eq_some_iff.1 hhead
    obtain ⟨d, t, rfl⟩ := List.exists_cons_of_ne_nil hname.ne_nil
    obtain ⟨rfl, -⟩ := List.cons_eq_cons.1 h
    exact hname.not_mem (c := '<') (by decide) List.mem_cons_self
  subst hnone
  refine ⟨rfl, hreceiver.resolve_right ?_⟩
  -- A receiver ends with a dot, which would be before the parenthesis and so in the name.
  rintro ⟨r, rfl, hr⟩
  rw [List.nil_append, List.append_assoc, List.singleton_append] at h
  rcases append_eq_cut h with ⟨t, rfl, ht⟩ | ⟨t, rfl⟩
  · cases t with
    | nil => exact absurd (List.cons_eq_cons.1 ht).1 (by decide)
    | cons d t =>
        obtain ⟨rfl, -⟩ := List.cons_eq_cons.1 ht
        exact hname.not_mem (c := '.') (by decide) (by simp)
  · exact hr (by simp)

/-- The keyword, a name and a parenthesis are read in one way. -/
theorem keyword_unique (hkeyword : keyword ∈ keywordForm.language) (hname' : IsIdentifier name')
    (hopening : opening ∈ openingForm.language) (hname : IsIdentifier name)
    (h : keyword ++ (name' ++ (opening ++ v)) = funWord ++ ' ' :: (name ++ '(' :: rest)) :
    keyword = funWord ++ [' '] ∧ name' = name ∧ opening = ['('] := by
  obtain ⟨b, angles, receiver, rfl, hb, hblank, hangles, hreceiver⟩ := mem_keywordForm hkeyword
  obtain ⟨b', rfl, hblank'⟩ := mem_openingForm hopening
  simp only [List.append_assoc, List.append_cancel_left_eq] at h
  obtain ⟨rfl, hlater⟩ := blanks_unique hb hblank hname.not_isBlank_head h
  obtain ⟨rfl, rfl⟩ := between_eq_nil hname hangles hreceiver hlater
  rw [List.nil_append, List.nil_append] at hlater
  have hend : ∀ c ∈ (b' ++ '(' :: v).head?, ¬ IsWordChar c := by
    cases b' with
    | nil => exact not_isWordChar_cons (by decide)
    | cons d b' => exact not_isWordChar_blank (List.cons_ne_nil d b') hblank'
  obtain ⟨rfl, hafter⟩ := run_unique hname'.chars hname.chars hend
    (not_isWordChar_cons (by decide)) hlater
  cases b' with
  | nil => exact ⟨rfl, rfl, rfl⟩
  | cons d b' =>
      obtain ⟨rfl, -⟩ := List.cons_eq_cons.1 hafter
      exact absurd ( hblank' '(' List.mem_cons_self) (by decide)

/-- A front starts with a word. -/
theorem front_starts (hmodifiers : ∀ m ∈ modifiers, m ∈ plainModifiers) :
    ∃ word more, rowText modifiers ++ (funWord ++ v) = word ++ more ∧ IsIdentifier word := by
  cases modifiers with
  | nil => exact ⟨funWord, v, rfl, isIdentifier_funWord⟩
  | cons m modifiers =>
      refine ⟨m, ' ' :: (rowText modifiers ++ (funWord ++ v)), ?_, ?_⟩
      · rw [rowText_cons, List.append_assoc]
        rfl
      · exact isIdentifier_of_mem_plainModifiers m (hmodifiers m List.mem_cons_self)

theorem not_isBlank_front (hmodifiers : ∀ m ∈ modifiers, m ∈ plainModifiers) :
    ∀ c ∈ (rowText modifiers ++ (funWord ++ v)).head?, ¬ isBlank c = true := by
  obtain ⟨word, more, hfront, hword⟩ := front_starts (v := v) hmodifiers
  rw [hfront]
  exact hword.not_isBlank_head

/-- A row of modifiers, the keyword, a name and a parenthesis are read in one way. -/
theorem front_unique (hmodifiers : ∀ m ∈ modifiers, m ∈ plainModifiers)
    (hname : IsIdentifier name) (hrow : row ∈ modifierForm.star.language)
    (hkeyword : keyword ∈ keywordForm.language) (hname' : IsIdentifier name')
    (hopening : opening ∈ openingForm.language)
    (h : row ++ (keyword ++ (name' ++ (opening ++ v))) = frontText modifiers name ++ rest) :
    row = rowText modifiers ∧ keyword = funWord ++ [' '] ∧ name' = name ∧ opening = ['('] := by
  have hfront : ∀ modifiers, frontText modifiers name ++ rest =
      rowText modifiers ++ (funWord ++ ' ' :: (name ++ '(' :: rest)) := by
    intro modifiers
    simp [frontText]
  rw [Form.star_language] at hrow
  obtain ⟨us, rfl, hus⟩ := Language.mem_kstar.1 hrow
  clear hrow
  rw [hfront] at h
  induction modifiers generalizing us with
  | nil =>
      cases us with
      | nil => exact ⟨rfl, keyword_unique hkeyword hname' hopening hname h⟩
      | cons u us =>
          obtain ⟨hu, hothers⟩ := List.forall_mem_cons.1 hus
          obtain ⟨x, b, rfl, hx, hb, hblank⟩ := mem_modifierForm hu
          rw [List.flatten_cons, List.append_assoc] at h
          obtain ⟨rfl, hmem, -, -⟩ := modifier_unique hx hb hblank isIdentifier_funWord
            hname.not_isBlank_head h
          exact absurd hmem funWord_notMem_plainModifiers
  | cons m modifiers ih =>
      obtain ⟨hm, hmore⟩ := List.forall_mem_cons.1 hmodifiers
      rw [rowText_cons, List.append_assoc, List.cons_append] at h
      cases us with
      | nil =>
          obtain ⟨b, angles, receiver, rfl, hb, hblank, -⟩ := mem_keywordForm hkeyword
          rw [List.flatten_nil, List.nil_append, List.append_assoc, List.append_assoc] at h
          obtain ⟨rfl, -⟩ := run_unique isIdentifier_funWord.chars
            (isIdentifier_of_mem_plainModifiers m hm).chars (not_isWordChar_blank hb hblank)
            (not_isWordChar_cons (by decide)) h
          exact absurd hm funWord_notMem_plainModifiers
      | cons u us =>
          obtain ⟨hu, hothers⟩ := List.forall_mem_cons.1 hus
          obtain ⟨x, b, rfl, hx, hb, hblank⟩ := mem_modifierForm hu
          rw [List.flatten_cons, List.append_assoc] at h
          obtain ⟨rfl, -, rfl, hlater⟩ := modifier_unique hx hb hblank
            (isIdentifier_of_mem_plainModifiers m hm) (not_isBlank_front hmore) h
          obtain ⟨hrow, hparts⟩ := ih hmore us hothers hlater
          refine ⟨?_, hparts⟩
          rw [List.flatten_cons, hrow, rowText_cons, List.append_assoc]
          rfl

end Reading

/-! ## Finding a front -/

section Finding

variable {row keyword name opening rest : Text} {modifiers : List Text}

/-- What a path takes. -/
theorem taken_trail (row keyword name opening : Text) :
    taken (trail row keyword name opening) = row ++ (keyword ++ (name ++ opening)) := by
  simp [trail, taken, taken_append, taken_take]

/-- What a path notes: where its first and its third part start and end. -/
theorem noted_trail (offset : Nat) (row keyword name opening : Text) (m : Marks) :
    noted offset (trail row keyword name opening) m =
      (5, offset + Text.size row + Text.size keyword + Text.size name) ::
        (4, offset + Text.size row + Text.size keyword) :: (3, offset + Text.size row) ::
          (2, offset) :: m := by
  simp [trail, noted, noted_append, noted_take, taken_take]

/-- A path can be followed at the edge of a word. -/
theorem follow?_trail (h : (Look.wordEdge Alphabet.unicode.word).holds
      (Spot.between [] (row ++ (keyword ++ (name ++ (opening ++ rest))))).place = true) :
    (Spot.between [] (row ++ (keyword ++ (name ++ (opening ++ rest))))).follow?
      (trail row keyword name opening) =
        some (.between (row ++ keyword ++ name ++ opening) rest) := by
  have hnote : ∀ (s : Spot) (slot : Nat) (w : List Step),
      s.follow? (.note slot :: w) = s.follow? w := fun _ _ _ => rfl
  rw [trail, Spot.follow?, Spot.step?, if_pos h, Option.bind_some, hnote]
  simp only [Spot.follow?_append, Spot.follow?_take, Option.bind_some, hnote, List.nil_append]

/-- A front starts at the edge of a word. -/
theorem holds_wordEdge_front (hmodifiers : ∀ m ∈ modifiers, m ∈ plainModifiers) :
    (Look.wordEdge Alphabet.unicode.word).holds
      (Spot.between [] (rowText modifiers ++ (funWord ++ rest))).place = true := by
  obtain ⟨word, more, hfront, hword⟩ := front_starts (v := rest) hmodifiers
  obtain ⟨c, t, rfl⟩ := List.exists_cons_of_ne_nil hword.ne_nil
  have hc : Pattern.wordSet.contains c = true := hword.chars c List.mem_cons_self
  have hset : Alphabet.unicode.word = Pattern.wordSet := by rw [Alphabet.unicode]
  rw [hfront, hset, Look.holds, Look.inWord, Look.inWord, Spot.place, Spot.between,
    List.cons_append, List.head?_cons, Option.any_some, hc, List.getLast?_nil, Option.any_none]
  rfl

/-- A front can be taken on a path. -/
theorem trail_mem_paths (hmodifiers : ∀ m ∈ modifiers, m ∈ plainModifiers)
    (hname : IsIdentifier name) :
    trail (rowText modifiers) (funWord ++ [' ']) name ['('] ∈ Alphabet.unicode.funForm.paths := by
  have hspace : [' '] ∈ Alphabet.unicode.someBlanksForm.language :=
    Alphabet.mem_someBlanksForm.2 ⟨by simp, List.forall_mem_singleton.2 (by decide)⟩
  refine mem_paths_funForm.2 ⟨_, ?_, _, ?_, _, hname, _, ?_, rfl⟩
  · rw [Form.star_language]
    refine Language.mem_kstar.2 ⟨modifiers.map (· ++ [' ']), List.flatMap_def, fun u hu => ?_⟩
    obtain ⟨m, hm, rfl⟩ := List.mem_map.1 hu
    rw [modifierForm, Form.inRow_language]
    simp only [List.map_cons, List.map_nil, List.prod_cons, List.prod_nil, mul_one]
    exact Language.append_mem_mul (modifier_of_mem (hmodifiers m hm)) hspace
  · rw [keywordForm, Form.inRow_language]
    simp only [List.map_cons, List.map_nil, List.prod_cons, List.prod_nil, mul_one,
      Form.opt_language]
    have hnil : ∀ l : Language Char, [] ∈ 1 + l := fun l =>
      (Language.mem_add 1 l []).2 (.inl (Language.nil_mem_one))
    have hnothing : ∀ l m : Language Char, [] ∈ (1 + l) * (1 + m) := fun l m =>
      Language.append_mem_mul (hnil l) (hnil m)
    exact Language.append_mem_mul (a := funWord) rfl
      (Language.append_mem_mul hspace (hnothing _ _))
  · rw [openingForm, Form.inRow_language]
    simp only [List.map_cons, List.map_nil, List.prod_cons, List.prod_nil, mul_one]
    exact ⟨[], Alphabet.mem_blanksForm.2 (by simp), _, rfl, rfl⟩

/-- A path leads through the front at the start of a text. -/
theorem leads_front (hmodifiers : ∀ m ∈ modifiers, m ∈ plainModifiers)
    (hname : IsIdentifier name) (rest : Text) :
    Leads (.between [] (frontText modifiers name ++ rest)) [funShape] := by
  have htext : frontText modifiers name ++ rest = rowText modifiers ++ ((funWord ++ [' ']) ++
      (name ++ (['('] ++ rest))) := by simp [frontText]
  refine ⟨trail (rowText modifiers) (funWord ++ [' ']) name ['('], ?_, ?_⟩
  · rw [pathsOf_singleton, Node.paths, funShape, Form.toNode_wordsOver]
    exact trail_mem_paths hmodifiers hname
  · rw [htext, follow?_trail]
    · rfl
    · rw [List.append_assoc funWord]
      exact holds_wordEdge_front hmodifiers

/-- The front at the start of a text is found, and the places of its parts are noted. -/
theorem find_front_marks (hmodifiers : ∀ m ∈ modifiers, m ∈ plainModifiers)
    (hname : IsIdentifier name) (rest : Text) :
    find funShape (frontText modifiers name ++ rest) = some ⟨
      [(1, Text.size (frontText modifiers name)),
        (5, Text.size (rowText modifiers ++ (funWord ++ [' ']) ++ name)),
        (4, Text.size (rowText modifiers ++ (funWord ++ [' ']))),
        (3, Text.size (rowText modifiers)), (2, 0), (0, 0)]⟩ := by
  obtain ⟨⟨marks⟩, hfound, hstart⟩ := find_of_leads isShape_funShape.part.slots
    (Form.toNode_distinct Alphabet.unicode.funForm) (leads_front hmodifiers hname rest)
  obtain ⟨head, t, w, s, ht, hw, hmarks, hpath⟩ := find_traced hfound
  obtain ⟨v, hv, rfl⟩ := mem_paths_group.1 hpath
  rw [Node.paths, funShape, Form.toNode_wordsOver] at hv
  obtain ⟨row, hrow, keyword, hkeyword, name', hname', opening, hopening, rfl⟩ :=
    mem_paths_funForm.1 hv
  have hahead := (Spot.ahead_of_follow? hw).1
  simp only [noted, noted_append, noted_trail, taken, taken_append, taken_trail] at hmarks hahead
  -- Nothing is found before the text.
  have hhead : head = [] := by
    rw [hmarks, Marks.start_eq rfl] at hstart
    exact Text.eq_nil_of_size (Nat.le_zero.1 hstart)
  subst hhead
  have hsplit : row ++ (keyword ++ (name' ++ (opening ++ s.ahead))) =
      frontText modifiers name ++ rest := by
    have ht' : t = frontText modifiers name ++ rest := ht.symm
    rw [← ht']
    simpa [Spot.between] using hahead.symm
  obtain ⟨rfl, rfl, rfl, rfl⟩ :=
    front_unique hmodifiers hname hrow hkeyword hname' hopening hsplit
  rw [List.nil_append] at hfound
  rw [hfound, hmarks]
  simp [frontText, Text.size_append, Text.size, Nat.add_assoc]

/-- The front at the start of a text is found, with the row of its modifiers as group 1 and its name
as group 2. -/
theorem find_front (hmodifiers : ∀ m ∈ modifiers, m ∈ plainModifiers) (hname : IsIdentifier name)
    (rest : Text) :
    ∃ found, find funShape (frontText modifiers name ++ rest) = some found ∧
      found.span = ⟨0, Text.size (frontText modifiers name)⟩ ∧
        groupText (frontText modifiers name ++ rest) found 1 = rowText modifiers ∧
          groupText (frontText modifiers name ++ rest) found 2 = name := by
  refine ⟨_, find_front_marks hmodifiers hname rest, rfl, ?_, ?_⟩
  · show Span.text ⟨0, Text.size (rowText modifiers)⟩ _ = _
    have hrow := Span.text_append [] (rowText modifiers) (funWord ++ [' '] ++ name ++ ['('] ++ rest)
    rw [Text.size, Nat.zero_add] at hrow
    simpa [frontText] using hrow
  · show Span.text ⟨Text.size (rowText modifiers ++ (funWord ++ [' '])),
      Text.size (rowText modifiers ++ (funWord ++ [' ']) ++ name)⟩ _ = _
    have hpart := Span.text_append (rowText modifiers ++ (funWord ++ [' '])) name (['('] ++ rest)
    rw [← Text.size_append] at hpart
    simpa [frontText] using hpart

end Finding

end Emend
