import Emend.Proofs.Unicode.CharSets
import Emend.Unicode.Recent
/-!
# ASCII in the tables

The tables of the standard are long, but few of their ranges start among the first 128 code points.
Those of the categories are listed here (`Category.ascii`), and with them it is told which
characters of ASCII belong to words (`contains_wordChars`), are blanks, and have case or are
passed over where case is looked for.
-/

namespace Emend

namespace CharSet

variable {n : Nat} {l rs : List CharRange}

/-- The ranges of a table that start among the first 128 code points. -/
def lowRanges (table : List Char) : List CharRange :=
  (listed table).filter fun r => r.first < 0x80

theorem holds_lowRanges (hn : n < 0x80) (table : List Char) :
    Holds n (lowRanges table) ↔ Holds n (listed table) := by
  simp only [Holds, lowRanges, List.mem_filter, decide_eq_true_eq]
  constructor
  · rintro ⟨r, ⟨hr, -⟩, h⟩
    exact ⟨r, hr, h⟩
  · rintro ⟨r, hr, h⟩
    exact ⟨r, ⟨hr, by omega⟩, h⟩

/-- A table is looked through character by character. -/
theorem lowRanges_ofList {t : List Char} (h : lowRanges t = rs) :
    lowRanges (String.ofList t).toList = rs := by
  rw [String.toList_ofList, h]

theorem contains_ofTable_ascii {table : String} (h : lowRanges table.toList = rs) {c : Char}
    (hc : c.toNat < 0x80) : (ofTable table).contains c = true ↔ Holds c.toNat rs := by
  rw [contains_ofTable, ← holds_lowRanges hc, h]

end CharSet

open CharSet

/-! ## Categories -/

namespace Category

/-- The categories that words, blanks, letter case and what is passed over are made of. -/
def tabulated : List Category := [lu, ll, lt, lm, lo, mn, mc, me, nd, nl, pc, sk, cf, zs]

/-- The code points of ASCII with one of these categories. -/
def ascii : Category → List CharRange
  | .lu => [⟨0x41, 0x5A⟩]
  | .ll => [⟨0x61, 0x7A⟩]
  | .nd => [⟨0x30, 0x39⟩]
  | .pc => [⟨0x5F, 0x5F⟩]
  | .sk => [⟨0x5E, 0x5E⟩, ⟨0x60, 0x60⟩]
  | .zs => [⟨0x20, 0x20⟩]
  | _ => []

variable {category : Category}

theorem tabulated_cases (h : category ∈ tabulated) : category = lu ∨ category = ll ∨
    category = lt ∨ category = lm ∨ category = lo ∨ category = mn ∨ category = mc ∨
    category = me ∨ category = nd ∨ category = nl ∨ category = pc ∨ category = sk ∨
    category = cf ∨ category = zs := by
  simpa only [tabulated, List.mem_cons, List.not_mem_nil, or_false] using h

set_option maxRecDepth 100000 in
theorem lowRanges_table (h : category ∈ tabulated) :
    lowRanges category.table.toList = category.ascii := by
  rcases tabulated_cases h with rfl | rfl | rfl | rfl | rfl | rfl | rfl | rfl | rfl | rfl | rfl |
    rfl | rfl | rfl
  all_goals
    unfold table ascii
    exact lowRanges_ofList (by decide +kernel)

theorem chars_eq (h : category ∈ tabulated) : category.chars = CharSet.ofTable category.table := by
  rcases tabulated_cases h with rfl | rfl | rfl | rfl | rfl | rfl | rfl | rfl | rfl | rfl | rfl |
    rfl | rfl | rfl
  all_goals rfl

theorem valid_chars (h : category ∈ tabulated) : Valid category.chars.ranges := by
  rw [chars_eq h]
  exact valid_ofTable _

theorem contains_ascii (h : category ∈ tabulated) {c : Char} (hc : c.toNat < 0x80) :
    category.chars.contains c = true ↔ Holds c.toNat category.ascii := by
  rw [chars_eq h, contains_ofTable_ascii (lowRanges_table h) hc]

end Category

/-! ## Properties -/

namespace UnicodeProperty

variable {p : UnicodeProperty} {more : List CharRange} {c : Char}

/-- What a property adds to its categories and what it takes away from them. -/
structure Tabulated (p : UnicodeProperty) (more : List CharRange) : Prop where
  /-- Its categories are tabulated. -/
  categories : ∀ category ∈ p.categories, category ∈ Category.tabulated
  /-- Of ASCII it adds the given ranges. -/
  more : lowRanges p.more.toList = more
  /-- Of ASCII it takes nothing away. -/
  less : lowRanges p.less.toList = []

theorem Tabulated.valid_sets (h : p.Tabulated more) :
    ∀ s ∈ p.categories.map Category.chars, Valid s.ranges := by
  intro s hs
  obtain ⟨category, hcategory, rfl⟩ := List.mem_map.1 hs
  exact Category.valid_chars (h.categories category hcategory)

theorem Tabulated.valid (h : p.Tabulated more) : Valid p.chars.ranges :=
  valid_diff (valid_union (valid_unions h.valid_sets) (valid_ofTable _)) (valid_ofTable _)

/-- A character of ASCII has a property if one of the categories has it or if it is added. -/
theorem Tabulated.contains (h : p.Tabulated more) (hc : c.toNat < 0x80) :
    p.chars.contains c = true ↔ Holds c.toNat (p.categories.flatMap Category.ascii ++ more) := by
  have hunions := valid_unions h.valid_sets
  have hcategories : (∃ s ∈ p.categories.map Category.chars, s.contains c = true) ↔
      Holds c.toNat (p.categories.flatMap Category.ascii) := by
    have hcontains : ∀ category ∈ p.categories,
        (category.chars.contains c = true ↔ Holds c.toNat category.ascii) :=
      fun category hcategory => Category.contains_ascii (h.categories category hcategory) hc
    constructor
    · rintro ⟨s, hs, hin⟩
      obtain ⟨category, hcategory, rfl⟩ := List.mem_map.1 hs
      obtain ⟨r, hr, hn⟩ := (hcontains category hcategory).1 hin
      exact ⟨r, List.mem_flatMap.2 ⟨category, hcategory, hr⟩, hn⟩
    · rintro ⟨r, hr, hn⟩
      obtain ⟨category, hcategory, hr⟩ := List.mem_flatMap.1 hr
      exact ⟨_, List.mem_map_of_mem hcategory, (hcontains category hcategory).2 ⟨r, hr, hn⟩⟩
  rw [UnicodeProperty.chars, contains_diff (valid_union hunions (valid_ofTable _))
    (valid_ofTable _), contains_union hunions (valid_ofTable _), contains_unions h.valid_sets,
    contains_ofTable_ascii h.more hc, contains_ofTable_ascii h.less hc, hcategories, holds_append]
  simp only [holds_nil, not_false_eq_true, and_true]

set_option maxRecDepth 100000 in
/-- The properties that words, blanks and letter case are told by, and what they add of ASCII.
Their tables are read in one proof, one after the other. -/
theorem tabulated_properties : alphabetic.Tabulated [] ∧ joinControl.Tabulated [] ∧
    cased.Tabulated [] ∧ whiteSpace.Tabulated [⟨0x9, 0xD⟩] ∧
    caseIgnorable.Tabulated [⟨0x27, 0x27⟩, ⟨0x2E, 0x2E⟩, ⟨0x3A, 0x3A⟩] := by
  refine ⟨⟨by decide, ?_, ?_⟩, ⟨by decide, ?_, ?_⟩, ⟨by decide, ?_, ?_⟩, ⟨by decide, ?_, ?_⟩,
    ⟨by decide, ?_, ?_⟩⟩
  all_goals
    simp only [alphabetic, joinControl, cased, whiteSpace, caseIgnorable]
    exact lowRanges_ofList (by decide +kernel)

theorem tabulated_alphabetic : alphabetic.Tabulated [] := tabulated_properties.1

theorem tabulated_joinControl : joinControl.Tabulated [] := tabulated_properties.2.1

theorem tabulated_cased : cased.Tabulated [] := tabulated_properties.2.2.1

theorem tabulated_whiteSpace : whiteSpace.Tabulated [⟨0x9, 0xD⟩] := tabulated_properties.2.2.2.1

theorem tabulated_caseIgnorable :
    caseIgnorable.Tabulated [⟨0x27, 0x27⟩, ⟨0x2E, 0x2E⟩, ⟨0x3A, 0x3A⟩] :=
  tabulated_properties.2.2.2.2

end UnicodeProperty

/-! ## Words and blanks -/

namespace CharSet

theorem valid_wordSets : ∀ s ∈ [UnicodeProperty.alphabetic.chars, Category.mn.chars,
    Category.mc.chars, Category.me.chars, Category.nd.chars, Category.pc.chars,
    UnicodeProperty.joinControl.chars], Valid s.ranges := by
  have hcategory : ∀ category ∈ Category.tabulated, Valid category.chars.ranges :=
    fun _ => Category.valid_chars
  simp only [List.forall_mem_cons, List.not_mem_nil, false_implies, implies_true, and_true]
  exact ⟨UnicodeProperty.tabulated_alphabetic.valid, hcategory _ (by decide),
    hcategory _ (by decide), hcategory _ (by decide), hcategory _ (by decide),
    hcategory _ (by decide), UnicodeProperty.tabulated_joinControl.valid⟩

/-- Of ASCII, words are made of letters, digits and the low line. -/
theorem contains_wordChars {c : Char} (hc : c.toNat < 0x80) :
    wordChars.contains c = true ↔
      Holds c.toNat [⟨0x41, 0x5A⟩, ⟨0x61, 0x7A⟩, ⟨0x30, 0x39⟩, ⟨0x5F, 0x5F⟩] := by
  have hcategory : ∀ {category : Category}, category ∈ Category.tabulated →
      (category.chars.contains c = true ↔ Holds c.toNat category.ascii) :=
    fun h => Category.contains_ascii h hc
  rw [wordChars, contains_unions valid_wordSets]
  simp only [List.mem_cons, exists_eq_or_imp, List.not_mem_nil, or_false, exists_eq_left,
    UnicodeProperty.tabulated_alphabetic.contains hc,
    UnicodeProperty.tabulated_joinControl.contains hc, @hcategory .mn (by decide),
    @hcategory .mc (by decide), @hcategory .me (by decide), @hcategory .nd (by decide),
    @hcategory .pc (by decide)]
  have hnone : UnicodeProperty.joinControl.categories.flatMap Category.ascii = [] := by decide
  have hletters : UnicodeProperty.alphabetic.categories.flatMap Category.ascii =
      [⟨0x41, 0x5A⟩, ⟨0x61, 0x7A⟩] := by decide
  simp only [hnone, hletters, Category.ascii, List.append_nil, holds_nil, holds_cons, or_false,
    false_or, or_assoc]

theorem valid_wordChars : Valid wordChars.ranges := valid_unions valid_wordSets

/-- The blanks of ASCII are the space and the controls from the tabulator to the carriage return. -/
theorem contains_spaceChars {c : Char} (hc : c.toNat < 0x80) :
    UnicodeProperty.whiteSpace.chars.contains c = true ↔
      Holds c.toNat [⟨0x20, 0x20⟩, ⟨0x9, 0xD⟩] :=
  UnicodeProperty.tabulated_whiteSpace.contains hc

end CharSet

/-! ## Letter case -/

namespace Recent

theorem contains_cased {c : Char} (hc : c.toNat < 0x80) :
    cased.contains c = true ↔ Holds c.toNat [⟨0x41, 0x5A⟩, ⟨0x61, 0x7A⟩] := by
  have hproperty := UnicodeProperty.tabulated_cased
  have hletters : UnicodeProperty.cased.categories.flatMap Category.ascii =
      [⟨0x41, 0x5A⟩, ⟨0x61, 0x7A⟩] := by decide
  have hfricative : ¬ (CharSet.singleton 'ʕ').contains c = true := by
    rw [contains_iff (valid_singleton _)]
    rintro ⟨r, hr, hle, -⟩
    obtain rfl := List.mem_singleton.1 hr
    exact absurd (Nat.lt_of_le_of_lt hle hc) (by decide)
  rw [cased, contains_diff (valid_union hproperty.valid (valid_ofTable _)) (valid_singleton _),
    contains_union hproperty.valid (valid_ofTable _), hproperty.contains hc, hletters,
    contains_ofTable_ascii (lowRanges_ofList (show lowRanges _ = [] by decide +kernel)) hc,
    List.append_nil]
  simp only [holds_nil, or_false]
  exact and_iff_left hfricative

set_option maxRecDepth 100000 in
theorem contains_caseIgnorable {c : Char} (hc : c.toNat < 0x80) :
    caseIgnorable.contains c = true ↔ Holds c.toNat
      [⟨0x5E, 0x5E⟩, ⟨0x60, 0x60⟩, ⟨0x27, 0x27⟩, ⟨0x2E, 0x2E⟩, ⟨0x3A, 0x3A⟩] := by
  have hproperty := UnicodeProperty.tabulated_caseIgnorable
  have hmarks : UnicodeProperty.caseIgnorable.categories.flatMap Category.ascii =
      [⟨0x5E, 0x5E⟩, ⟨0x60, 0x60⟩] := by decide
  rw [caseIgnorable, contains_union hproperty.valid (valid_ofTable _), hproperty.contains hc, hmarks,
    contains_ofTable_ascii (lowRanges_ofList (show lowRanges _ = [] by decide +kernel)) hc]
  simp only [holds_nil, or_false, List.cons_append, List.nil_append]

end Recent

end Emend
