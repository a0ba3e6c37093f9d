import Mathlib.Order.Basic
import Emend.Unicode.CharSet
/-!
# What sets of characters hold

The ranges of a set ascend and have gaps between them (`CharSet.Valid`).  Then a search that stops
at the first range that is too late finds what some range holds (`inRanges_iff`).

Every operation keeps the form and does to the characters what its name says: ranges that are
brought into order (`holds_ofRanges`), unions (`contains_union`), complements (`contains_compl`)
and differences (`contains_diff`).  So a set is what its tables list (`contains_ofTable`), and this
can be looked up without putting them in order.
-/

namespace Emend.CharSet

variable {n : Nat} {r s : CharRange} {a b l : List CharRange}

/-! ## Ranges -/

/-- One of the ranges holds a code point. -/
def Holds (n : Nat) (l : List CharRange) : Prop := ∃ r ∈ l, r.first ≤ n ∧ n ≤ r.last

instance : Decidable (Holds n l) :=
  inferInstanceAs (Decidable (∃ r ∈ l, r.first ≤ n ∧ n ≤ r.last))

theorem holds_nil : ¬ Holds n [] := fun ⟨_, h, _⟩ => nomatch h

theorem holds_cons : Holds n (r :: l) ↔ r.first ≤ n ∧ n ≤ r.last ∨ Holds n l := by
  simp [Holds]

theorem holds_append : Holds n (a ++ b) ↔ Holds n a ∨ Holds n b := by
  simp only [Holds, List.mem_append, or_and_right, exists_or]

theorem holds_of_mem_iff (h : ∀ r, r ∈ l ↔ r ∈ a ∨ r ∈ b) : Holds n l ↔ Holds n a ∨ Holds n b := by
  simp only [Holds, h, or_and_right, exists_or]

/-- No range is empty, and they come in the order of their least code points. -/
structure Ascending (l : List CharRange) : Prop where
  /-- No range is empty. -/
  nonempty : ∀ r ∈ l, r.first ≤ r.last
  /-- They come in order. -/
  sorted : l.Pairwise fun r s => r.first ≤ s.first

/-- No range is empty, and between two of them there is a gap. -/
structure Valid (l : List CharRange) : Prop where
  /-- No range is empty. -/
  nonempty : ∀ r ∈ l, r.first ≤ r.last
  /-- Between two of them there is a gap. -/
  gaps : l.Pairwise fun r s => r.last + 1 < s.first

theorem Ascending.tail (h : Ascending (r :: l)) : Ascending l :=
  ⟨fun s hs => h.nonempty s (List.mem_cons_of_mem _ hs), (List.pairwise_cons.1 h.sorted).2⟩

theorem Ascending.le (h : Ascending (r :: l)) : ∀ s ∈ l, r.first ≤ s.first :=
  (List.pairwise_cons.1 h.sorted).1

theorem Ascending.cons (hr : r.first ≤ r.last) (hle : ∀ s ∈ l, r.first ≤ s.first)
    (h : Ascending l) : Ascending (r :: l) :=
  ⟨List.forall_mem_cons.2 ⟨hr, h.nonempty⟩, List.pairwise_cons.2 ⟨hle, h.sorted⟩⟩

theorem valid_nil : Valid [] := ⟨by simp, .nil⟩

theorem Valid.tail (h : Valid (r :: l)) : Valid l :=
  ⟨fun s hs => h.nonempty s (List.mem_cons_of_mem _ hs), (List.pairwise_cons.1 h.gaps).2⟩

theorem Valid.lt (h : Valid (r :: l)) : ∀ s ∈ l, r.last + 1 < s.first :=
  (List.pairwise_cons.1 h.gaps).1

theorem Valid.first_le (h : Valid (r :: l)) : r.first ≤ r.last := h.nonempty r List.mem_cons_self

theorem Valid.cons (hr : r.first ≤ r.last) (hlt : ∀ s ∈ l, r.last + 1 < s.first) (h : Valid l) :
    Valid (r :: l) :=
  ⟨List.forall_mem_cons.2 ⟨hr, h.nonempty⟩, List.pairwise_cons.2 ⟨hlt, h.gaps⟩⟩

theorem Valid.ascending (h : Valid l) : Ascending l := by
  induction l with
  | nil => exact ⟨by simp, .nil⟩
  | cons r l ih =>
      refine .cons h.first_le (fun s hs => ?_) (ih h.tail)
      have hlt := h.lt s hs
      have hle := h.first_le
      omega

/-- In valid ranges the search finds what one of them holds. -/
theorem inRanges_iff (h : Valid l) : inRanges n l = true ↔ Holds n l := by
  induction l with
  | nil => simp [inRanges, holds_nil]
  | cons r l ih =>
      have hlater : n ≤ r.last → ¬ Holds n l := by
        rintro hn ⟨s, hs, hle, -⟩
        have := h.lt s hs
        omega
      have hle := h.first_le
      have hrest := ih h.tail
      rw [inRanges, holds_cons, ← hrest]
      split
      · next hlt =>
        have hnone := mt hrest.1 (hlater (by omega))
        simp only [Bool.false_eq_true, false_iff, not_or, not_and]
        exact ⟨fun _ => by omega, hnone⟩
      split
      · next hge hn => simpa using Or.inl ⟨by omega, hn⟩
      · next hge hn => simp [hn]

/-! ## Ranges in order -/

theorem Ascending.joined (h : Ascending (r :: s :: l)) :
    Ascending (⟨r.first, max r.last s.last⟩ :: l) := by
  refine .cons ?_ (fun q hq => h.le q (List.mem_cons_of_mem _ hq)) h.tail.tail
  exact Nat.le_trans (h.nonempty r List.mem_cons_self) (Nat.le_max_left _ _)

theorem holds_coalesce (h : Ascending (r :: l)) : Holds n (coalesce r l) ↔ Holds n (r :: l) := by
  induction l generalizing r with
  | nil => rfl
  | cons s l ih =>
      have hle := h.le s List.mem_cons_self
      rw [coalesce]
      split
      · next htouch =>
        have hjoined : r.first ≤ n ∧ n ≤ max r.last s.last ↔
            (r.first ≤ n ∧ n ≤ r.last) ∨ (s.first ≤ n ∧ n ≤ s.last) := by omega
        rw [ih h.joined, holds_cons, holds_cons, holds_cons, hjoined, or_assoc]
      · rw [holds_cons, ih h.tail, ← holds_cons]

theorem le_of_mem_coalesce (h : Ascending (r :: l)) : ∀ q ∈ coalesce r l, r.first ≤ q.first := by
  induction l generalizing r with
  | nil => simp [coalesce]
  | cons s l ih =>
      rw [coalesce]
      split
      · exact ih h.joined
      · refine List.forall_mem_cons.2 ⟨Nat.le_refl _, fun q hq => ?_⟩
        exact Nat.le_trans (h.le s List.mem_cons_self) (ih h.tail q hq)

theorem valid_coalesce (h : Ascending (r :: l)) : Valid (coalesce r l) := by
  induction l generalizing r with
  | nil => exact ⟨h.nonempty, List.pairwise_singleton _ _⟩
  | cons s l ih =>
      rw [coalesce]
      split
      · exact ih h.joined
      · next hgap =>
        refine .cons (h.nonempty r List.mem_cons_self) (fun q hq => ?_) (ih h.tail)
        have hle := le_of_mem_coalesce h.tail q hq
        omega

theorem valid_ofAscending (h : Ascending l) : Valid (ofAscending l).ranges := by
  cases l with
  | nil => exact valid_nil
  | cons r l => exact valid_coalesce h

theorem holds_ofAscending (h : Ascending l) : Holds n (ofAscending l).ranges ↔ Holds n l := by
  cases l with
  | nil => rfl
  | cons r l => exact holds_coalesce h

/-! ## Merged ranges -/

/-- What a list is made into has the ranges of another list besides, in order. -/
structure Merges (a : List CharRange) (rest : List CharRange → List CharRange) : Prop where
  /-- It has the ranges of both. -/
  mem : ∀ b r, r ∈ rest b ↔ r ∈ a ∨ r ∈ b
  /-- They come in order if those of the list do. -/
  ascending : ∀ b, Ascending b → Ascending (rest b)

section Merges

variable {rest : List CharRange → List CharRange}

theorem Merges.mem_mergeRange (h : Merges a rest) (b : List CharRange) :
    s ∈ mergeRange r rest b ↔ s ∈ r :: a ∨ s ∈ b := by
  induction b with
  | nil => simp [mergeRange, h.mem]
  | cons q b ih =>
      rw [mergeRange]
      split
      · simp only [List.mem_cons, h.mem, or_assoc]
      · rw [List.mem_cons, ih, List.mem_cons (l := b), or_left_comm]

theorem Merges.cons (hr : r.first ≤ r.last) (hle : ∀ s ∈ a, r.first ≤ s.first)
    (h : Merges a rest) : Merges (r :: a) (mergeRange r rest) := by
  refine ⟨fun b _ => h.mem_mergeRange b, fun b hb => ?_⟩
  induction b with
  | nil =>
      refine .cons hr (fun s hs => ?_) (h.ascending [] hb)
      exact hle s (((h.mem [] s).1 hs).resolve_right (by simp))
  | cons s b ih =>
      rw [mergeRange]
      split
      · next hfirst =>
        refine .cons hr (fun q hq => ?_) (h.ascending _ hb)
        rcases (h.mem _ q).1 hq with hq | hq
        · exact hle q hq
        · rcases List.mem_cons.1 hq with rfl | hq
          · exact hfirst
          · exact Nat.le_trans hfirst (hb.le q hq)
      · next hlater =>
        refine .cons (hb.nonempty s List.mem_cons_self) (fun q hq => ?_) (ih hb.tail)
        rcases (h.mem_mergeRange b).1 hq with hq | hq
        · rcases List.mem_cons.1 hq with rfl | hq
          · omega
          · have := hle q hq
            omega
        · exact hb.le q hq

end Merges

theorem merges_mergeRanges (h : Ascending a) : Merges a (mergeRanges a) := by
  induction a with
  | nil => exact ⟨by simp [mergeRanges], fun _ hb => hb⟩
  | cons r a ih => exact (ih h.tail).cons (h.nonempty r List.mem_cons_self) h.le

/-! ## Sets -/

theorem ascending_sort (h : ∀ r ∈ l, r.first ≤ r.last) :
    Ascending (l.foldr (fun r => mergeRanges [r]) []) := by
  induction l with
  | nil => exact ⟨by simp, .nil⟩
  | cons r l ih =>
      obtain ⟨hr, hl⟩ := List.forall_mem_cons.1 h
      exact (merges_mergeRanges ⟨by simpa using hr, List.pairwise_singleton _ _⟩).ascending _ (ih hl)

theorem mem_sort (h : ∀ r ∈ l, r.first ≤ r.last) :
    s ∈ l.foldr (fun r => mergeRanges [r]) [] ↔ s ∈ l := by
  induction l with
  | nil => rfl
  | cons r l ih =>
      obtain ⟨hr, hl⟩ := List.forall_mem_cons.1 h
      have hone := merges_mergeRanges (a := [r]) ⟨by simpa using hr, List.pairwise_singleton _ _⟩
      rw [List.foldr_cons, hone.mem, ih hl, List.mem_singleton, List.mem_cons]

theorem nonempty_of_filter (l : List CharRange) :
    ∀ r ∈ l.filter fun r => r.first ≤ r.last, r.first ≤ r.last := fun r hr => by
  simpa using (List.mem_filter.1 hr).2

theorem valid_ofRanges (l : List CharRange) : Valid (ofRanges l).ranges :=
  valid_ofAscending (ascending_sort (nonempty_of_filter l))

theorem valid_ofList (cs : List Char) : Valid (ofList cs).ranges := valid_ofRanges _

/-- The set of some ranges holds what one of them holds. -/
theorem holds_ofRanges : Holds n (ofRanges l).ranges ↔ Holds n l := by
  have hl := nonempty_of_filter l
  rw [ofRanges, holds_ofAscending (ascending_sort hl)]
  simp only [Holds, mem_sort hl, List.mem_filter, decide_eq_true_eq]
  constructor
  · rintro ⟨r, ⟨hr, -⟩, hn⟩
    exact ⟨r, hr, hn⟩
  · rintro ⟨r, hr, hn⟩
    exact ⟨r, ⟨hr, Nat.le_trans hn.1 hn.2⟩, hn⟩

theorem valid_singleton (c : Char) : Valid (singleton c).ranges :=
  ⟨by simp [singleton], List.pairwise_singleton _ _⟩

theorem contains_iff {s : CharSet} (h : Valid s.ranges) {c : Char} :
    s.contains c = true ↔ Holds c.toNat s.ranges := inRanges_iff h

theorem contains_singleton {c d : Char} : (singleton c).contains d = true ↔ d = c := by
  rw [contains_iff (valid_singleton c), singleton, holds_cons, or_iff_left holds_nil,
    ← Char.toNat_inj]
  exact ⟨fun h => Nat.le_antisymm h.2 h.1, fun h => ⟨Nat.le_of_eq h.symm, Nat.le_of_eq h⟩⟩

theorem contains_ofRanges {c : Char} : (ofRanges l).contains c = true ↔ Holds c.toNat l := by
  rw [contains_iff (valid_ofRanges l), holds_ofRanges]

theorem contains_ofList {cs : List Char} {c : Char} :
    (ofList cs).contains c = true ↔ c ∈ cs := by
  rw [ofList, contains_ofRanges]
  constructor
  · rintro ⟨r, hr, hle, hge⟩
    obtain ⟨d, hd, rfl⟩ := List.mem_map.1 hr
    obtain rfl : d = c := Char.toNat_inj.1 (Nat.le_antisymm hle hge)
    exact hd
  · exact fun hc => ⟨_, List.mem_map.2 ⟨c, hc, rfl⟩, Nat.le_refl _, Nat.le_refl _⟩

section Operations

variable {s t : CharSet} {c : Char}

theorem valid_union (hs : Valid s.ranges) (ht : Valid t.ranges) : Valid (s.union t).ranges :=
  valid_ofAscending ((merges_mergeRanges hs.ascending).ascending _ ht.ascending)

theorem contains_union (hs : Valid s.ranges) (ht : Valid t.ranges) :
    (s.union t).contains c = true ↔ s.contains c = true ∨ t.contains c = true := by
  have hmerges := merges_mergeRanges hs.ascending
  rw [contains_iff (valid_union hs ht), contains_iff hs, contains_iff ht, union,
    holds_ofAscending (hmerges.ascending _ ht.ascending), holds_of_mem_iff (hmerges.mem _)]

theorem valid_unions {sets : List CharSet} (h : ∀ s ∈ sets, Valid s.ranges) :
    Valid (unions sets).ranges := by
  induction sets with
  | nil => exact valid_nil
  | cons s sets ih =>
      obtain ⟨hs, hsets⟩ := List.forall_mem_cons.1 h
      exact valid_union hs (ih hsets)

theorem contains_unions {sets : List CharSet} (h : ∀ s ∈ sets, Valid s.ranges) :
    (unions sets).contains c = true ↔ ∃ s ∈ sets, s.contains c = true := by
  induction sets with
  | nil => simp [unions, contains, empty, inRanges]
  | cons s sets ih =>
      obtain ⟨hs, hsets⟩ := List.forall_mem_cons.1 h
      simp only [List.mem_cons, exists_eq_or_imp, ← ih hsets]
      exact contains_union hs (valid_unions hsets)

/-! ## Complements -/

theorem valid_gapsFrom {start : Nat} (hl : Valid l) (hstart : ∀ r ∈ l, start ≤ r.first) :
    Valid (gapsFrom start l) ∧ ∀ r ∈ gapsFrom start l, start ≤ r.first := by
  induction l generalizing start with
  | nil =>
      rw [gapsFrom]
      split
      · next hle => exact ⟨⟨by simpa using hle, List.pairwise_singleton _ _⟩, by simp⟩
      · exact ⟨valid_nil, by simp⟩
  | cons r l ih =>
      have hle := hl.first_le
      have hfirst := hstart r List.mem_cons_self
      obtain ⟨hvalid, hlater⟩ := ih hl.tail fun s hs => Nat.le_of_lt (hl.lt s hs)
      rw [gapsFrom]
      split
      · next hlt =>
        refine ⟨.cons (by simp only; omega) (fun s hs => ?_) hvalid, ?_⟩
        · have := hlater s hs
          simp only
          omega
        · refine List.forall_mem_cons.2 ⟨Nat.le_refl _, fun s hs => ?_⟩
          have := hlater s hs
          omega
      · refine ⟨hvalid, fun s hs => ?_⟩
        have := hlater s hs
        omega

theorem holds_gapsFrom {start : Nat} (hl : Valid l) (hstart : ∀ r ∈ l, start ≤ r.first)
    (hn : n ≤ maxCode) : Holds n (gapsFrom start l) ↔ start ≤ n ∧ ¬ Holds n l := by
  induction l generalizing start with
  | nil =>
      rw [gapsFrom]
      split
      · simp [holds_cons, holds_nil, hn]
      · next hlt =>
        simp only [holds_nil, not_false_eq_true, and_true, false_iff]
        omega
  | cons r l ih =>
      have hle := hl.first_le
      have hfirst := hstart r List.mem_cons_self
      have hrest := ih hl.tail (fun s hs => Nat.le_of_lt (hl.lt s hs))
      have hlater : n ≤ r.last → ¬ Holds n l := by
        rintro hn ⟨s, hs, hle, -⟩
        have := hl.lt s hs
        omega
      rw [gapsFrom]
      split
      · next hlt =>
        rw [holds_cons, hrest, holds_cons]
        by_cases hin : n ≤ r.last
        · simp only [hlater hin]
          simp only [not_false_eq_true, and_true, or_false]
          omega
        · simp only [hin, and_false, false_or]
          constructor
          · rintro (hgap | hrest)
            · omega
            · exact ⟨by omega, hrest.2⟩
          · exact fun h => .inr ⟨by omega, h.2⟩
      · next hge =>
        rw [hrest, holds_cons]
        by_cases hin : n ≤ r.last
        · simp only [hlater hin]
          simp only [not_false_eq_true, and_true, or_false]
          omega
        · simp only [hin, and_false, false_or]
          refine and_congr_left fun _ => ?_
          omega

theorem valid_compl (hs : Valid s.ranges) : Valid s.compl.ranges :=
  (valid_gapsFrom hs fun _ _ => Nat.zero_le _).1

theorem contains_compl (hs : Valid s.ranges) :
    s.compl.contains c = true ↔ ¬ s.contains c = true := by
  have hvalid : c.toNat < 0xD800 ∨ 0xDFFF < c.toNat ∧ c.toNat < 0x110000 := c.valid
  have hc : c.toNat ≤ maxCode := by
    rw [maxCode]
    omega
  rw [contains_iff (valid_compl hs), contains_iff hs, compl,
    holds_gapsFrom hs (fun _ _ => Nat.zero_le _) hc]
  simp

theorem valid_inter (hs : Valid s.ranges) (ht : Valid t.ranges) : Valid (s.inter t).ranges :=
  valid_compl (valid_union (valid_compl hs) (valid_compl ht))

theorem contains_inter (hs : Valid s.ranges) (ht : Valid t.ranges) :
    (s.inter t).contains c = true ↔ s.contains c = true ∧ t.contains c = true := by
  have hs' := valid_compl hs
  have ht' := valid_compl ht
  rw [inter, contains_compl (valid_union hs' ht'), contains_union hs' ht', contains_compl hs,
    contains_compl ht, not_or, not_not, not_not]

theorem valid_diff (hs : Valid s.ranges) (ht : Valid t.ranges) : Valid (s.diff t).ranges :=
  valid_inter hs (valid_compl ht)

theorem contains_diff (hs : Valid s.ranges) (ht : Valid t.ranges) :
    (s.diff t).contains c = true ↔ s.contains c = true ∧ ¬ t.contains c = true := by
  rw [diff, contains_inter hs (valid_compl ht), contains_compl ht]

end Operations

/-! ## Tables -/

/-- The ranges that a table lists, in the order of the table. -/
def listed (table : List Char) : List CharRange :=
  ((entries table).filter fun e => !e.isEmpty).flatMap entryRanges

theorem valid_ofTable (table : String) : Valid (ofTable table).ranges := valid_ofRanges _

theorem contains_ofTable {table : String} {c : Char} :
    (ofTable table).contains c = true ↔ Holds c.toNat (listed table.toList) := contains_ofRanges

end Emend.CharSet
