import Mathlib.Data.List.Forall2
import Emend.Match.Literal
import Emend.Proofs.Text.Encoding
import Emend.Proofs.Text.Places
/-!
# Occurrences of a text

A text occurs in another one where a run of characters agrees with it, character by character
(`Occurs`), and it occurs there first if it occurs nowhere before (`OccursFirst`).

*The search.*  At each place the text is compared with what starts there
(`Literal.agreeing?_eq_some_iff`), from the first place on.  So the first occurrence is found, and
nothing is found if there is none (`Literal.occursFirst_of_firstAgreeing?`,
`Literal.not_occurs_of_firstAgreeing?`).

*Case.*  Characters agree that are equal, or have the same lower-case form (`Literal.Agree`).  Both
searches find first occurrences (`Literal.findText_first`).  As for the bytes, the search where case
counts finds the first ones that are those of the text (`Literal.findText_bytes`).
-/

namespace Emend

open Text

variable {r : Char → Char → Prop} {needle t before before' part part' content pattern : Text}

/-! ## Parts that agree -/

/-- After `before`, a text has a part that agrees with `needle`, character by character. -/
structure Occurs (r : Char → Char → Prop) (needle t before part : Text) : Prop where
  /-- The text has the part there. -/
  cut : before ++ part <+: t
  /-- Its characters agree with those of `needle`, one by one. -/
  agree : List.Forall₂ r part needle

/-- After `before`, a text has the first part that agrees with `needle`. -/
structure OccursFirst (r : Char → Char → Prop) (needle t before part : Text) : Prop extends
    Occurs r needle t before part where
  /-- No other one comes before it. -/
  first : ∀ before' part', Occurs r needle t before' part' → before <+: before'

namespace Occurs

theorem cons_iff {c d : Char} : Occurs r needle (c :: t) (d :: before) part ↔
    d = c ∧ Occurs r needle t before part := by
  constructor
  · rintro ⟨hcut, hagree⟩
    obtain ⟨hd, hcut⟩ := List.cons_prefix_cons.1 hcut
    exact ⟨hd, hcut, hagree⟩
  · rintro ⟨rfl, hcut, hagree⟩
    exact ⟨List.cons_prefix_cons.2 ⟨rfl, hcut⟩, hagree⟩

/-- In an empty text there is no part that agrees with a text that is not empty. -/
theorem false_of_nil (hne : needle ≠ []) : ¬ Occurs r needle [] before part := by
  rintro ⟨hcut, hagree⟩
  obtain ⟨-, rfl⟩ := List.append_eq_nil_iff.1 (List.prefix_nil.1 hcut)
  exact hne (List.forall₂_nil_left_iff.1 hagree)

/-- At one place there is only one part that agrees. -/
theorem part_eq (h : Occurs r needle t before part) (h' : Occurs r needle t before part') :
    part = part' := by
  have hlength : part.length = part'.length := h.agree.length_eq.trans h'.agree.length_eq.symm
  have hprefix := List.prefix_of_prefix_length_le h.cut h'.cut (by simp [hlength])
  exact ((List.prefix_append_right_inj before).1 hprefix).eq_of_length hlength

theorem imp {r' : Char → Char → Prop} (hr : ∀ a b, r a b → r' a b)
    (h : Occurs r needle t before part) : Occurs r' needle t before part :=
  ⟨h.cut, h.agree.imp hr⟩

end Occurs

namespace OccursFirst

/-- There is only one first part that agrees. -/
theorem unique (h : OccursFirst r needle t before part)
    (h' : OccursFirst r needle t before' part') : before = before' ∧ part = part' := by
  obtain rfl : before = before' :=
    (h.first _ _ h'.toOccurs).eq_of_length_le (h'.first _ _ h.toOccurs).length_le
  exact ⟨rfl, h.part_eq h'.toOccurs⟩

end OccursFirst

namespace Literal

/-! ## The search -/

section Search

variable {same : Char → Char → Bool} (hsame : ∀ a b, same a b = true ↔ r a b)

include hsame

theorem agreeing?_eq_some_iff :
    agreeing? same needle t = some part ↔ Occurs r needle t [] part := by
  induction needle generalizing t part with
  | nil =>
      rw [agreeing?, Option.some.injEq]
      constructor
      · rintro rfl
        exact ⟨List.nil_prefix, .nil⟩
      · intro h
        exact (List.forall₂_nil_right_iff.1 h.agree).symm
  | cons n ns ih =>
      cases t with
      | nil =>
          rw [agreeing?]
          exact iff_of_false (by simp) (Occurs.false_of_nil (List.cons_ne_nil _ _))
      | cons c t =>
          rw [agreeing?, Option.ite_none_right_eq_some, Option.map_eq_some_iff, hsame]
          constructor
          · rintro ⟨hc, rest, hrest, rfl⟩
            obtain ⟨hcut, hagree⟩ := ih.1 hrest
            exact ⟨List.cons_prefix_cons.2 ⟨rfl, hcut⟩, .cons hc hagree⟩
          · rintro ⟨hcut, hagree⟩
            obtain ⟨d, rest, hd, hrest, rfl⟩ := List.forall₂_cons_right_iff.1 hagree
            obtain ⟨rfl, hmore⟩ := List.cons_prefix_cons.1 hcut
            exact ⟨hd, rest, ih.2 ⟨hmore, hrest⟩, rfl⟩

/-- What is found is the first part that agrees. -/
theorem occursFirst_of_firstAgreeing? {offset : Nat} {s : Span}
    (h : firstAgreeing? same needle offset t = some s) : ∃ before part,
      OccursFirst r needle t before part ∧
        s = ⟨offset + size before, offset + size before + size part⟩ := by
  induction t generalizing offset with
  | nil => cases h
  | cons c t ih =>
      rw [firstAgreeing?] at h
      cases hpart : agreeing? same needle (c :: t) with
      | some part =>
          rw [hpart] at h
          cases h
          have hoccurs := (agreeing?_eq_some_iff hsame).1 hpart
          exact ⟨[], part, ⟨hoccurs, fun _ _ _ => List.nil_prefix⟩, rfl⟩
      | none =>
          rw [hpart] at h
          obtain ⟨before, part, hfirst, rfl⟩ := ih h
          refine ⟨c :: before, part, ⟨Occurs.cons_iff.2 ⟨rfl, hfirst.toOccurs⟩, ?_⟩, ?_⟩
          · intro before' part' hother
            cases before' with
            | nil =>
                rw [(agreeing?_eq_some_iff hsame).2 hother] at hpart
                cases hpart
            | cons d before' =>
                obtain ⟨rfl, hlater⟩ := Occurs.cons_iff.1 hother
                exact List.cons_prefix_cons.2 ⟨rfl, hfirst.first _ _ hlater⟩
          · simp only [size, Nat.add_assoc]

/-- If nothing is found, no part agrees. -/
theorem not_occurs_of_firstAgreeing? (hne : needle ≠ []) {offset : Nat}
    (h : firstAgreeing? same needle offset t = none) : ¬ Occurs r needle t before part := by
  induction t generalizing offset before with
  | nil => exact Occurs.false_of_nil hne
  | cons c t ih =>
      rw [firstAgreeing?] at h
      intro hoccurs
      cases hpart : agreeing? same needle (c :: t) with
      | some part =>
          rw [hpart] at h
          cases h
      | none =>
          rw [hpart] at h
          cases before with
          | nil =>
              rw [(agreeing?_eq_some_iff hsame).2 hoccurs] at hpart
              cases hpart
          | cons d before => exact ih h (Occurs.cons_iff.1 hoccurs).2

end Search

/-! ## Occurrences of a pattern -/

/-- Characters agree that are equal, and those with the same lower-case form if case does not
count. -/
def Agree (caseSensitive : Bool) (a b : Char) : Prop :=
  if caseSensitive then a = b else lowerChar a = lowerChar b

theorem agree_of_eq (caseSensitive : Bool) {a b : Char} (h : a = b) : Agree caseSensitive a b := by
  subst h
  cases caseSensitive <;> rfl

/-- Where case counts, only the text itself agrees with a text. -/
theorem occurs_agree_iff : Occurs (Agree true) needle t before part ↔
    before ++ needle <+: t ∧ part = needle := by
  have hagree : List.Forall₂ (Agree true) part needle ↔ part = needle :=
    iff_of_eq (congrFun (congrFun List.forall₂_eq_eq_eq part) needle)
  constructor
  · rintro ⟨hcut, hpart⟩
    obtain rfl := hagree.1 hpart
    exact ⟨hcut, rfl⟩
  · rintro ⟨hcut, rfl⟩
    exact ⟨hcut, hagree.2 rfl⟩

theorem findText_of_ne_nil (hne : pattern ≠ []) (content : Text) (caseSensitive : Bool) :
    ∃ same : Char → Char → Bool, (∀ a b, same a b = true ↔ Agree caseSensitive a b) ∧
      findText content pattern caseSensitive =
        (firstAgreeing? same pattern 0 content).map (Match.ofSpan content) := by
  refine ⟨if caseSensitive then fun a b => a == b else sameLower, fun a b => ?_, ?_⟩
  · cases caseSensitive with
    | true => exact beq_iff_eq
    | false =>
        have hlower : sameLower a b = true ↔ a = b ∨ lowerChar a = lowerChar b := by
          rw [sameLower, Bool.or_eq_true, beq_iff_eq, beq_iff_eq]
        exact hlower.trans (or_iff_right_of_imp (congrArg lowerChar))
  · rw [findText, if_neg (by simpa using hne)]

/-- What is found is the first occurrence of the pattern. -/
theorem occursFirst_of_findText (hne : pattern ≠ []) {caseSensitive : Bool} {m : Match}
    (h : findText content pattern caseSensitive = some m) : ∃ before,
      OccursFirst (Agree caseSensitive) pattern content before m.text ∧
        m.span = ⟨size before, size before + size m.text⟩ := by
  obtain ⟨same, hsame, hfind⟩ := findText_of_ne_nil hne content caseSensitive
  rw [hfind] at h
  obtain ⟨s, hs, rfl⟩ := Option.map_eq_some_iff.1 h
  obtain ⟨before, part, hfirst, rfl⟩ := occursFirst_of_firstAgreeing? hsame hs
  obtain ⟨after, hcontent⟩ := hfirst.cut
  have htext : Span.text ⟨size before, size before + size part⟩ content = part := by
    rw [← hcontent, Span.text_append]
  rw [Match.ofSpan, Nat.zero_add, htext]
  exact ⟨before, hfirst, rfl⟩

theorem exists_findText_iff (hne : pattern ≠ []) {caseSensitive : Bool} :
    (∃ m, findText content pattern caseSensitive = some m) ↔
      ∃ before part, Occurs (Agree caseSensitive) pattern content before part := by
  constructor
  · rintro ⟨m, h⟩
    obtain ⟨before, hfirst, -⟩ := occursFirst_of_findText hne h
    exact ⟨before, m.text, hfirst.toOccurs⟩
  · rintro ⟨before, part, h⟩
    obtain ⟨same, hsame, hfind⟩ := findText_of_ne_nil hne content caseSensitive
    rw [← Option.ne_none_iff_exists', hfind, ne_eq, Option.map_eq_none_iff]
    exact fun hnone => not_occurs_of_firstAgreeing? hsame hne hnone h

/-- The first occurrence of the pattern is found, and nothing else. -/
theorem findText_eq_some_iff (hne : pattern ≠ []) {caseSensitive : Bool} {m : Match} :
    findText content pattern caseSensitive = some m ↔ ∃ before,
      OccursFirst (Agree caseSensitive) pattern content before m.text ∧
        m.span = ⟨size before, size before + size m.text⟩ := by
  refine ⟨occursFirst_of_findText hne, ?_⟩
  rintro ⟨before, hfirst, hspan⟩
  obtain ⟨m', hm'⟩ := (exists_findText_iff hne).2 ⟨before, m.text, hfirst.toOccurs⟩
  obtain ⟨before', hfirst', hspan'⟩ := occursFirst_of_findText hne hm'
  obtain ⟨rfl, htext⟩ := hfirst.unique hfirst'
  rw [← htext, ← hspan] at hspan'
  have hsame : m' = m := by
    obtain ⟨span, text⟩ := m'
    obtain rfl : span = m.span := hspan'
    obtain rfl : text = m.text := htext.symm
    rfl
  rw [hm', hsame]

/-- A text that is not empty is found where it occurs, as it is written or up to case.  What is
found is the first occurrence, which has as many characters as the text that is sought.  Up to case
there may be one that is earlier, but none is missed. -/
theorem findText_first (content : Text) (hne : pattern ≠ []) :
    (∀ caseSensitive, (∃ m, findText content pattern caseSensitive = some m) ↔
      ∃ before part, Occurs (Agree caseSensitive) pattern content before part) ∧
    (∀ caseSensitive m, findText content pattern caseSensitive = some m ↔ ∃ before,
      OccursFirst (Agree caseSensitive) pattern content before m.text ∧
        m.span = ⟨size before, size before + size m.text⟩) ∧
    (∀ caseSensitive m, findText content pattern caseSensitive = some m →
      m.text.length = pattern.length) ∧
    ∀ m, findText content pattern true = some m →
      ∃ m', findText content pattern false = some m' ∧ m'.span.start ≤ m.span.start := by
  refine ⟨fun _ => exists_findText_iff hne, fun _ _ => findText_eq_some_iff hne,
    fun caseSensitive m h => ?_, fun m h => ?_⟩
  · obtain ⟨before, hfirst, -⟩ := occursFirst_of_findText hne h
    exact hfirst.agree.length_eq
  · obtain ⟨before, hfirst, hspan⟩ := occursFirst_of_findText hne h
    have hoccurs : Occurs (Agree false) pattern content before m.text :=
      hfirst.toOccurs.imp fun a b => agree_of_eq false
    obtain ⟨m', hm'⟩ := (exists_findText_iff hne).2 ⟨before, m.text, hoccurs⟩
    obtain ⟨before', hfirst', hspan'⟩ := occursFirst_of_findText hne hm'
    obtain ⟨rest, rfl⟩ := hfirst'.first before m.text hoccurs
    refine ⟨m', hm', ?_⟩
    rw [hspan, hspan', size_append]
    exact Nat.le_add_right _ _

/-- A long s and a short one, and the sign for kelvin, which is a capital letter of three bytes. -/
def kelvinSign : Text := ['ſ', 's', '\u212A', 'k', 's', 'k']

/-- Up to case the sign for kelvin is found first. -/
theorem findText_first_kelvinSign :
    findText kelvinSign ['s', 'k'] true = some ⟨⟨7, 9⟩, ['s', 'k']⟩ ∧
      findText kelvinSign ['s', 'k'] false = some ⟨⟨2, 6⟩, ['s', '\u212A']⟩ ∧
      ∃ before, OccursFirst (Agree false) ['s', 'k'] kelvinSign before ['s', '\u212A'] ∧
        size before = 2 := by
  have hne : (['s', 'k'] : Text) ≠ [] := by decide
  have hexact : findText kelvinSign ['s', 'k'] true = some ⟨⟨7, 9⟩, ['s', 'k']⟩ := by decide
  have hfolded : findText kelvinSign ['s', 'k'] false = some ⟨⟨2, 6⟩, ['s', '\u212A']⟩ := by decide
  obtain ⟨-, hfirst, -⟩ := findText_first kelvinSign hne
  obtain ⟨before, hoccurs, hspan⟩ := (hfirst false _).1 hfolded
  exact ⟨hexact, hfolded, before, hoccurs, (congrArg Span.start hspan).symm⟩

/-- Where case counts, the bytes of what is found are the first ones that are those of the
pattern. -/
theorem findText_bytes (hne : pattern ≠ []) {m : Match}
    (h : findText content pattern true = some m) :
    Utf8.encode pattern <+: (Utf8.encode content).drop m.span.start ∧
      ∀ n < m.span.start, ¬ Utf8.encode pattern <+: (Utf8.encode content).drop n := by
  obtain ⟨before, hfirst, hspan⟩ := occursFirst_of_findText hne h
  have hstart : m.span.start = size before := by rw [hspan]
  rw [hstart]
  have hcut := (occurs_agree_iff.1 hfirst.toOccurs).1
  refine ⟨(Utf8.encode_isPrefix_drop hne).2 ⟨before, hcut, rfl⟩, ?_⟩
  intro n hn hprefix
  obtain ⟨earlier, hearlier, rfl⟩ := (Utf8.encode_isPrefix_drop hne).1 hprefix
  obtain ⟨rest, rfl⟩ := hfirst.first earlier pattern (occurs_agree_iff.2 ⟨hearlier, rfl⟩)
  rw [size_append] at hn
  omega

end Literal

end Emend
