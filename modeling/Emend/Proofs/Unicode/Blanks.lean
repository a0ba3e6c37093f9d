import Emend.Proofs.Unicode.Ascii
import Emend.Text.Blank
/-!
# Blanks in the tables

The blanks that patterns know are those of texts (`contains_spaceChars_iff`), and no character of a
word is one of them (`not_isBlank_of_contains_wordChars`): none of the tables that words are made of
has a range that meets the blanks.
-/

namespace Emend

open CharSet

/-- The ranges of the blanks. -/
def blankRanges : List CharRange :=
  [⟨0x9, 0xD⟩, ⟨0x20, 0x20⟩, ⟨0x85, 0x85⟩, ⟨0xA0, 0xA0⟩, ⟨0x1680, 0x1680⟩, ⟨0x2000, 0x200A⟩,
   ⟨0x2028, 0x2029⟩, ⟨0x202F, 0x202F⟩, ⟨0x205F, 0x205F⟩, ⟨0x3000, 0x3000⟩]

theorem isBlank_iff {c : Char} : isBlank c = true ↔ Holds c.toNat blankRanges := by
  simp only [isBlank, blankRanges, holds_cons, holds_nil, Bool.or_eq_true, Bool.and_eq_true,
    decide_eq_true_eq, beq_iff_eq, or_false]
  omega

namespace CharSet

variable {n : Nat} {c : Char}

/-- The ranges of a table that meet the blanks. -/
def meetingBlanks (table : List Char) : List CharRange :=
  (listed table).filter fun r => blankRanges.any fun b => b.first ≤ r.last && r.first ≤ b.last

theorem holds_meetingBlanks (hn : Holds n blankRanges) (table : List Char) :
    Holds n (meetingBlanks table) ↔ Holds n (listed table) := by
  obtain ⟨b, hb, hle, hle'⟩ := hn
  simp only [Holds, meetingBlanks, List.mem_filter, List.any_eq_true, Bool.and_eq_true,
    decide_eq_true_eq]
  constructor
  · rintro ⟨r, ⟨hr, -⟩, h⟩
    exact ⟨r, hr, h⟩
  · rintro ⟨r, hr, h⟩
    exact ⟨r, ⟨hr, b, hb, by omega, by omega⟩, h⟩

/-- A table is looked through character by character. -/
theorem meetingBlanks_ofList {t : List Char} {rs : List CharRange} (h : meetingBlanks t = rs) :
    meetingBlanks (String.ofList t).toList = rs := by
  rw [String.toList_ofList, h]

theorem contains_ofTable_blank {table : String} {rs : List CharRange}
    (h : meetingBlanks table.toList = rs) (hc : isBlank c = true) :
    (ofTable table).contains c = true ↔ Holds c.toNat rs := by
  rw [contains_ofTable, ← holds_meetingBlanks (isBlank_iff.1 hc), h]

end CharSet

/-- The categories that words are made of. -/
def Category.ofWords : List Category := [.lu, .ll, .lt, .lm, .lo, .mn, .mc, .me, .nd, .nl, .pc]

set_option maxRecDepth 100000 in
/-- No table that words are made of meets the blanks. -/
theorem meetingBlanks_words : (∀ category ∈ Category.ofWords,
    meetingBlanks category.table.toList = []) ∧
      meetingBlanks UnicodeProperty.alphabetic.more.toList = [] ∧
        meetingBlanks UnicodeProperty.joinControl.more.toList = [] := by
  refine ⟨fun category h => ?_, ?_, ?_⟩
  · simp only [Category.ofWords, List.mem_cons, List.not_mem_nil, or_false] at h
    rcases h with rfl | rfl | rfl | rfl | rfl | rfl | rfl | rfl | rfl | rfl | rfl
    all_goals
      unfold Category.table
      exact meetingBlanks_ofList (by decide +kernel)
  · simp only [UnicodeProperty.alphabetic]
    exact meetingBlanks_ofList (by decide +kernel)
  · simp only [UnicodeProperty.joinControl]
    exact meetingBlanks_ofList (by decide +kernel)

namespace CharSet

variable {c : Char}

theorem not_contains_ofTable {table : String} (h : meetingBlanks table.toList = [])
    (hc : isBlank c = true) : ¬ (ofTable table).contains c = true := by
  rw [contains_ofTable_blank h hc]
  exact holds_nil

theorem not_contains_category {category : Category} (h : category ∈ Category.ofWords)
    (hc : isBlank c = true) : ¬ category.chars.contains c = true := by
  have htabulated : ∀ category ∈ Category.ofWords, category ∈ Category.tabulated := by decide
  rw [Category.chars_eq (htabulated category h)]
  exact not_contains_ofTable (meetingBlanks_words.1 category h) hc

theorem not_contains_property {p : UnicodeProperty} {more : List CharRange} (h : p.Tabulated more)
    (hcategories : ∀ category ∈ p.categories, category ∈ Category.ofWords)
    (hmore : meetingBlanks p.more.toList = []) (hc : isBlank c = true) :
    ¬ p.chars.contains c = true := by
  have hunions := valid_unions h.valid_sets
  rw [UnicodeProperty.chars, contains_diff (valid_union hunions (valid_ofTable _))
    (valid_ofTable _), contains_union hunions (valid_ofTable _), contains_unions h.valid_sets]
  rintro ⟨⟨s, hs, hin⟩ | hin, -⟩
  · obtain ⟨category, hcategory, rfl⟩ := List.mem_map.1 hs
    exact not_contains_category (hcategories category hcategory) hc hin
  · exact not_contains_ofTable hmore hc hin

/-- No character of a word is a blank. -/
theorem not_isBlank_of_contains_wordChars (h : wordChars.contains c = true) :
    ¬ isBlank c = true := by
  intro hc
  obtain ⟨-, halphabetic, hjoin⟩ := meetingBlanks_words
  obtain ⟨s, hs, hin⟩ := (contains_unions valid_wordSets).1 h
  have hnone : ∀ s ∈ [UnicodeProperty.alphabetic.chars, Category.mn.chars, Category.mc.chars,
      Category.me.chars, Category.nd.chars, Category.pc.chars,
      UnicodeProperty.joinControl.chars], ¬ s.contains c = true := by
    simp only [List.forall_mem_cons, List.not_mem_nil, false_implies, implies_true, and_true]
    exact ⟨not_contains_property UnicodeProperty.tabulated_alphabetic (by decide) halphabetic hc,
      not_contains_category (by decide) hc, not_contains_category (by decide) hc,
      not_contains_category (by decide) hc, not_contains_category (by decide) hc,
      not_contains_category (by decide) hc,
      not_contains_property UnicodeProperty.tabulated_joinControl (by decide) hjoin hc⟩
  exact hnone s hs hin

set_option maxRecDepth 100000 in
/-- The ranges of the space separators and of the other blanks. -/
theorem listed_blanks : listed Category.zs.table.toList =
      [⟨0x20, 0x20⟩, ⟨0xA0, 0xA0⟩, ⟨0x1680, 0x1680⟩, ⟨0x2000, 0x200A⟩, ⟨0x202F, 0x202F⟩,
       ⟨0x205F, 0x205F⟩, ⟨0x3000, 0x3000⟩] ∧
    listed UnicodeProperty.whiteSpace.more.toList =
      [⟨0x9, 0xD⟩, ⟨0x85, 0x85⟩, ⟨0x2028, 0x2029⟩] := by
  constructor <;> decide +kernel

/-- The blanks of patterns are those of texts. -/
theorem contains_spaceChars_iff : UnicodeProperty.whiteSpace.chars.contains c = true ↔
    isBlank c = true := by
  have hvalid := UnicodeProperty.tabulated_whiteSpace.valid_sets
  have hunions := valid_unions hvalid
  have hcategories : UnicodeProperty.whiteSpace.categories.map Category.chars =
      [ofTable Category.zs.table] := rfl
  have hless : ¬ (ofTable UnicodeProperty.whiteSpace.less).contains c = true := by
    rw [contains_ofTable]
    exact holds_nil
  rw [UnicodeProperty.chars, contains_diff (valid_union hunions (valid_ofTable _))
    (valid_ofTable _), and_iff_left hless, contains_union hunions (valid_ofTable _),
    contains_unions hvalid, hcategories, isBlank_iff]
  simp only [List.mem_singleton, exists_eq_left, contains_ofTable, listed_blanks, holds_cons,
    holds_nil, blankRanges, or_false]
  omega

end CharSet

end Emend
