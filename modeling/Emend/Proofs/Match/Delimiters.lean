import Emend.Proofs.Match.Levels
import Emend.Proofs.Text.Encoding
import Emend.Signature.Parts
/-!
# Delimiters that balance

A block ends at the brace that closes it (`Braces.closing?`) and a list of parameters at the
parenthesis that closes it (`closingParen?`).  Both are found by a scan that counts what is open.

*The scan.*  Delimiters are ASCII, so the scan may go over bytes: `Delimiters.scan` does so for
delimiters of any kind, and it is a fault in it if the counter should go below zero.  Characters
that are no delimiters have no byte of one (`Delimiters.scan_encode_cons`), so the searches do what
the scan does (`Braces.closingFrom?_eq_scan`, `splitAtClosing?_eq_scan`).

*Balance.*  What the counter says at a byte is by how many more delimiters are opened than closed
up to there.  One more byte changes both in the same way (`Delimiters.closesAt_cons`), so the scan
ends at the first byte with which they balance, and while it goes on some are open
(`Delimiters.exists_scan`).
-/

namespace Emend

/-- The bytes of a text from one offset up to another one, both included. -/
def Utf8.part (t : Text) (first last : Nat) : Bytes :=
  ((Utf8.encode t).drop first).take (last + 1 - first)

/-- A character of ASCII opens, and another one closes. -/
structure Delimiters where
  /-- The character that opens. -/
  opening : Char
  /-- The character that closes. -/
  closing : Char
  /-- The first one has one byte. -/
  opening_ascii : opening.toNat < 0x80 := by decide
  /-- The second one has one byte. -/
  closing_ascii : closing.toNat < 0x80 := by decide
  /-- They are not the same. -/
  ne : opening ≠ closing := by decide

namespace Delimiters

/-- Braces. -/
def braces : Delimiters where
  opening := '{'
  closing := '}'

/-- Parentheses. -/
def parentheses : Delimiters where
  opening := '('
  closing := ')'

/-! ## The scan -/

/-- The offset of the byte that closes the outermost of `depth` open delimiters, in bytes at
`offset`.  If one is to be closed and none is open this is a fault, at its offset. -/
def scan (d : Delimiters) (depth offset : Nat) : Bytes → Except Nat (Option Nat)
  | [] => .ok none
  | b :: bytes =>
    if b = Utf8.byte d.opening then d.scan (depth + 1) (offset + 1) bytes
    else if b = Utf8.byte d.closing then
      if depth = 0 then .error offset
      else if depth = 1 then .ok (some offset)
      else d.scan (depth - 1) (offset + 1) bytes
    else d.scan depth (offset + 1) bytes

variable (d : Delimiters) {depth next offset n : Nat} {b : UInt8} {bytes : Bytes}

theorem scan_append {front : Bytes} (hopening : Utf8.byte d.opening ∉ front)
    (hclosing : Utf8.byte d.closing ∉ front) (depth offset : Nat) (bytes : Bytes) :
    d.scan depth offset (front ++ bytes) = d.scan depth (offset + front.length) bytes := by
  induction front generalizing offset with
  | nil => rfl
  | cons b front ih =>
      rw [List.mem_cons, not_or] at hopening hclosing
      rw [List.cons_append, scan, if_neg (Ne.symm hopening.1), if_neg (Ne.symm hclosing.1),
        ih hopening.2 hclosing.2, List.length_cons, Nat.add_right_comm, Nat.add_assoc]

theorem byte_ne : Utf8.byte d.opening ≠ Utf8.byte d.closing := by
  intro heq
  refine d.ne ((Utf8.byte_mem_encodeChar d.closing_ascii).1 ?_)
  rw [← heq]
  exact (Utf8.byte_mem_encodeChar d.opening_ascii).2 rfl

/-- The scan of a text, character by character. -/
theorem scan_encode_cons (depth offset : Nat) (c : Char) (t : Text) :
    d.scan depth offset (Utf8.encode (c :: t)) =
      if c = d.opening then d.scan (depth + 1) (offset + c.utf8Size) (Utf8.encode t)
      else if c = d.closing then
        if depth = 0 then .error offset
        else if depth = 1 then .ok (some offset)
        else d.scan (depth - 1) (offset + c.utf8Size) (Utf8.encode t)
      else d.scan depth (offset + c.utf8Size) (Utf8.encode t) := by
  have hone : ∀ {c : Char}, c.toNat < 0x80 →
      Utf8.encode (c :: t) = Utf8.byte c :: Utf8.encode t ∧ c.utf8Size = 1 := by
    intro c hc
    have hform := Utf8.encodeChar_ascii hc
    rw [Utf8.encode_cons, ← Utf8.length_encodeChar, hform]
    exact ⟨rfl, rfl⟩
  split
  · next hc =>
    subst hc
    obtain ⟨hform, hsize⟩ := hone d.opening_ascii
    rw [hform, scan, if_pos rfl, hsize]
  · next hopening =>
    split
    · next hc =>
      subst hc
      obtain ⟨hform, hsize⟩ := hone d.closing_ascii
      rw [hform, scan, if_neg d.byte_ne.symm, if_pos rfl, hsize]
    · next hclosing =>
      rw [Utf8.encode_cons, d.scan_append (mt (Utf8.byte_mem_encodeChar d.opening_ascii).1 hopening)
        (mt (Utf8.byte_mem_encodeChar d.closing_ascii).1 hclosing), Utf8.length_encodeChar]

/-! ## Balance -/

/-- With the byte at `n`, bytes at `offset` close as many delimiters as they open, together with
`depth` that are open before them. -/
structure ClosesAt (depth offset : Nat) (bytes : Bytes) (n : Nat) : Prop where
  /-- The byte does not come before these bytes. -/
  start : offset ≤ n
  /-- The byte does not come after these bytes. -/
  stop : n < offset + bytes.length
  /-- As many are closed as have been opened. -/
  balanced : depth + (bytes.take (n + 1 - offset)).count (Utf8.byte d.opening) =
    (bytes.take (n + 1 - offset)).count (Utf8.byte d.closing)

/-- What is open after the first byte is closed by those behind it. -/
theorem closesAt_cons (hpos : 0 < next)
    (hnext : depth + (if b = Utf8.byte d.opening then 1 else 0) =
      next + if b = Utf8.byte d.closing then 1 else 0) :
    d.ClosesAt depth offset (b :: bytes) n ↔ d.ClosesAt next (offset + 1) bytes n := by
  have hcount : ∀ k, depth + ((b :: bytes).take (k + 1)).count (Utf8.byte d.opening) =
      ((b :: bytes).take (k + 1)).count (Utf8.byte d.closing) ↔
        next + (bytes.take k).count (Utf8.byte d.opening) =
          (bytes.take k).count (Utf8.byte d.closing) := by
    intro k
    simp only [List.take_succ_cons, List.count_cons, beq_iff_eq]
    omega
  constructor
  · rintro ⟨hstart, hstop, hbalanced⟩
    rw [show n + 1 - offset = n - offset + 1 by omega, hcount] at hbalanced
    have hne : n ≠ offset := by
      rintro rfl
      simp at hbalanced
      omega
    rw [List.length_cons] at hstop
    exact ⟨by omega, by omega, by rwa [Nat.add_sub_add_right]⟩
  · rintro ⟨hstart, hstop, hbalanced⟩
    rw [Nat.add_sub_add_right, ← hcount] at hbalanced
    exact ⟨by omega, by rw [List.length_cons]; omega,
      by rwa [show n + 1 - offset = n - offset + 1 by omega]⟩

/-- The least number with a property, if there is one. -/
def IsFirst (p : Nat → Prop) : Option Nat → Prop
  | some n => IsLeast {n | p n} n
  | none => ∀ n, ¬ p n

theorem IsFirst.congr {p q : Nat → Prop} {r : Option Nat} (h : IsFirst p r)
    (hpq : ∀ n, p n ↔ q n) : IsFirst q r := by
  obtain rfl : p = q := funext fun n => propext (hpq n)
  exact h

theorem IsFirst.eq_some_iff {p : Nat → Prop} {r : Option Nat} (h : IsFirst p r) :
    r = some n ↔ IsLeast {n | p n} n := by
  cases r with
  | none => exact iff_of_false (by simp) fun hleast => h n hleast.1
  | some m =>
      rw [Option.some.injEq]
      constructor
      · rintro rfl
        exact h
      · exact h.unique

theorem IsFirst.eq_none_iff {p : Nat → Prop} {r : Option Nat} (h : IsFirst p r) :
    r = none ↔ ¬ ∃ n, p n := by
  rw [not_exists]
  cases r with
  | none => exact iff_of_true rfl h
  | some m => exact iff_of_false (by simp) fun hnone => hnone m h.1

/-- Where something is open, the scan comes to no fault and ends with the first byte that closes
it. -/
theorem exists_scan (hpos : 0 < depth) (offset : Nat) (bytes : Bytes) :
    ∃ r, d.scan depth offset bytes = .ok r ∧ IsFirst (d.ClosesAt depth offset bytes) r := by
  induction bytes generalizing depth offset with
  | nil =>
      refine ⟨none, rfl, fun n h => ?_⟩
      have hstart := h.start
      have hstop := h.stop
      rw [List.length_nil] at hstop
      omega
  | cons b bytes ih =>
      have hgo : ∀ {next}, 0 < next →
          depth + (if b = Utf8.byte d.opening then 1 else 0) =
            next + (if b = Utf8.byte d.closing then 1 else 0) →
          ∃ r, d.scan next (offset + 1) bytes = .ok r ∧
            IsFirst (d.ClosesAt depth offset (b :: bytes)) r := by
        intro next hnext hcount
        obtain ⟨r, hscan, hfirst⟩ := ih hnext (offset + 1)
        exact ⟨r, hscan, hfirst.congr fun n => (d.closesAt_cons hnext hcount).symm⟩
      rw [scan]
      split
      · next hb => exact hgo (Nat.succ_pos depth) (by simp [hb, d.byte_ne])
      · next hopening =>
        split
        · next hb =>
          rw [if_neg (Nat.ne_of_gt hpos)]
          split
          · next hone =>
            refine ⟨some offset, rfl, ⟨Nat.le_refl _, by simp, ?_⟩, fun n h => h.start⟩
            simp [hb, hone, d.byte_ne.symm]
          · next hmore =>
            have hleft : 0 < depth - 1 := by omega
            refine hgo hleft ?_
            rw [if_neg hopening, if_pos hb]
            omega
        · next hclosing => exact hgo hpos (by simp [hopening, hclosing])

end Delimiters

open Delimiters

/-! ## The searches -/

/-- A search for a brace does what the scan does. -/
theorem Braces.closingFrom?_eq_scan {depth : Nat} (hpos : 0 < depth) (offset : Nat) (t : Text) :
    braces.scan depth offset (Utf8.encode t) = .ok (closingFrom? depth offset t) := by
  induction t generalizing depth offset with
  | nil => rfl
  | cons c t ih =>
      have hnone : depth ≠ 0 := Nat.ne_of_gt hpos
      rw [scan_encode_cons, closingFrom?, show braces.opening = '{' from rfl,
        show braces.closing = '}' from rfl, if_neg hnone, if_neg hnone]
      split
      · exact ih (Nat.succ_pos depth) _
      · split
        · split
          · rfl
          · exact ih (by omega) _
        · exact ih hpos _

/-- A search for a parenthesis does what the scan does. -/
theorem splitAtClosing?_eq_scan {depth : Nat} (hpos : 0 < depth) (offset : Nat) (t : Text) :
    parentheses.scan depth offset (Utf8.encode t) =
      .ok ((splitAtClosing? depth t).map fun cut => offset + Text.size cut.1) := by
  induction t generalizing depth offset with
  | nil => rfl
  | cons c t ih =>
      have hgo : ∀ {next}, 0 < next →
          parentheses.scan next (offset + c.utf8Size) (Utf8.encode t) =
            .ok (((splitAtClosing? next t).map fun cut => (c :: cut.1, cut.2)).map fun cut =>
              offset + Text.size cut.1) := by
        intro next hnext
        rw [ih hnext, Option.map_map]
        simp only [Function.comp_def, Text.size, Nat.add_assoc]
      rw [scan_encode_cons, splitAtClosing?, show parentheses.opening = '(' from rfl,
        show parentheses.closing = ')' from rfl, if_neg (Nat.ne_of_gt hpos)]
      by_cases hopening : c = '('
      · have hclosing : ¬ (c = ')' ∧ depth ≤ 1) := by simp [hopening]
        rw [if_pos hopening, if_neg hclosing, if_pos hopening]
        exact hgo (Nat.succ_pos depth)
      · rw [if_neg hopening, if_neg hopening]
        by_cases hclosing : c = ')'
        · rw [if_pos hclosing, if_pos hclosing]
          by_cases hone : depth = 1
          · rw [if_pos hone, if_pos ⟨hclosing, Nat.le_of_eq hone⟩]
            rfl
          · rw [if_neg hone, if_neg (by omega)]
            exact hgo (by omega)
        · rw [if_neg hclosing, if_neg hclosing, if_neg (fun h => hclosing h.1)]
          exact hgo hpos

/-! ## Where the delimiters balance -/

namespace Delimiters

variable (d : Delimiters)

/-- How many delimiters a text opens from one offset up to another one, both included. -/
def opened (t : Text) (first last : Nat) : Nat :=
  (Utf8.part t first last).count (Utf8.byte d.opening)

/-- How many delimiters a text closes from one offset up to another one, both included. -/
def closed (t : Text) (first last : Nat) : Nat :=
  (Utf8.part t first last).count (Utf8.byte d.closing)

theorem closesAt_size {depth n : Nat} (before after : Text) :
    d.ClosesAt depth (Text.size before) (Utf8.encode after) n ↔
      Text.size before ≤ n ∧ n < Text.size (before ++ after) ∧
        depth + d.opened (before ++ after) (Text.size before) n =
          d.closed (before ++ after) (Text.size before) n := by
  rw [opened, closed, Utf8.part, Utf8.drop_encode_size, Text.size_append, ← Utf8.length_encode after]
  exact ⟨fun h => ⟨h.start, h.stop, h.balanced⟩, fun h => ⟨h.1, h.2.1, h.2.2⟩⟩

end Delimiters

theorem Braces.closing?_isFirst {content : Text} {start : Nat}
    (h : (Utf8.encode content)[start]? = some (Utf8.byte '{')) :
    braces.scan 0 start ((Utf8.encode content).drop start) = .ok (closing? start content) ∧
      IsFirst (fun n => start ≤ n ∧ n < Text.size content ∧
        braces.opened content start n = braces.closed content start n) (closing? start content) := by
  obtain ⟨before, after, rfl, rfl⟩ := Utf8.exists_of_byte (by decide) h
  have hform : Utf8.encode ('{' :: after) = Utf8.byte '{' :: Utf8.encode after := rfl
  have hscan : braces.scan 0 (Text.size before) (Utf8.encode ('{' :: after)) =
      .ok (closingFrom? 1 (Text.size before + 1) after) :=
    (scan_encode_cons ..).trans (closingFrom?_eq_scan Nat.one_pos _ _)
  obtain ⟨r, hr, hfirst⟩ := braces.exists_scan Nat.one_pos (Text.size before + 1)
    (Utf8.encode after)
  rw [closingFrom?_eq_scan Nat.one_pos] at hr
  cases hr
  rw [Utf8.drop_encode_size, closing?_size]
  refine ⟨hscan, hfirst.congr fun n => ?_⟩
  have hopen : 0 + (if Utf8.byte '{' = Utf8.byte braces.opening then 1 else 0) =
      1 + if Utf8.byte '{' = Utf8.byte braces.closing then 1 else 0 := rfl
  rw [← braces.closesAt_cons Nat.one_pos hopen, ← hform, closesAt_size, Nat.zero_add]

/-- From a place on, the parenthesis is found where the list before it is cut off. -/
theorem closingParen?_size (before after : Text) :
    closingParen? (Text.size before) (before ++ after) =
      (splitAtClosing? 1 after).map fun cut => Text.size before + Text.size cut.1 := by
  rw [closingParen?, Text.splitAt?_size]
  simp only [Option.bind_eq_bind, Option.bind_some, Option.map_eq_bind]
  rfl

theorem closingParen?_isFirst {t : Text} {start : Nat} (h : Text.isBoundary start t = true) :
    parentheses.scan 1 start ((Utf8.encode t).drop start) = .ok (closingParen? start t) ∧
      IsFirst (fun n => start ≤ n ∧ n < Text.size t ∧
        parentheses.closed t start n = parentheses.opened t start n + 1) (closingParen? start t) := by
  obtain ⟨before, after, rfl, rfl⟩ := Text.isBoundary_iff.1 h
  obtain ⟨r, hr, hfirst⟩ := parentheses.exists_scan Nat.one_pos (Text.size before)
    (Utf8.encode after)
  rw [splitAtClosing?_eq_scan Nat.one_pos] at hr
  cases hr
  rw [Utf8.drop_encode_size, closingParen?_size]
  refine ⟨splitAtClosing?_eq_scan Nat.one_pos _ _, hfirst.congr fun n => ?_⟩
  rw [closesAt_size, Nat.add_comm 1, eq_comm (a := _ + 1)]

/-- From an opening brace on, the search for the brace that closes it finds the first place up to
which as many braces are closed as are opened, and nothing if there is no such place.  The search
for the parenthesis that closes one before a place finds the first place up to which one more is
closed than is opened, and nothing if there is none.  Neither ever takes its counter below
zero. -/
theorem delimiters_balance :
    (∀ content start, (Utf8.encode content)[start]? = some (Utf8.byte '{') →
      braces.scan 0 start ((Utf8.encode content).drop start) =
          .ok (Braces.closing? start content) ∧
        (∀ n, Braces.closing? start content = some n ↔
          IsLeast {n | start ≤ n ∧ n < Text.size content ∧
            braces.opened content start n = braces.closed content start n} n) ∧
        (Braces.closing? start content = none ↔ ¬ ∃ n, start ≤ n ∧ n < Text.size content ∧
          braces.opened content start n = braces.closed content start n)) ∧
    ∀ t start, Text.isBoundary start t = true →
      parentheses.scan 1 start ((Utf8.encode t).drop start) = .ok (closingParen? start t) ∧
        (∀ n, closingParen? start t = some n ↔
          IsLeast {n | start ≤ n ∧ n < Text.size t ∧
            parentheses.closed t start n = parentheses.opened t start n + 1} n) ∧
        (closingParen? start t = none ↔ ¬ ∃ n, start ≤ n ∧ n < Text.size t ∧
          parentheses.closed t start n = parentheses.opened t start n + 1) := by
  refine ⟨fun content start h => ?_, fun t start h => ?_⟩
  · obtain ⟨hscan, hfirst⟩ := Braces.closing?_isFirst h
    exact ⟨hscan, fun n => hfirst.eq_some_iff, hfirst.eq_none_iff⟩
  · obtain ⟨hscan, hfirst⟩ := closingParen?_isFirst h
    exact ⟨hscan, fun n => hfirst.eq_some_iff, hfirst.eq_none_iff⟩

/-- A list of parameters with parentheses of its own, and a block with one in it. -/
def nestedHeader : Text := "f(a(é)b)\x7b\x7b\x7d\x7d".toList

/-- The outer parenthesis and the outer brace are closed by the last ones. -/
theorem delimiters_balance_nested :
    Text.isBoundary 2 nestedHeader = true ∧
    IsLeast {n | 2 ≤ n ∧ n < Text.size nestedHeader ∧
      parentheses.closed nestedHeader 2 n = parentheses.opened nestedHeader 2 n + 1} 8 ∧
    (Utf8.encode nestedHeader)[9]? = some (Utf8.byte '{') ∧
    IsLeast {n | 9 ≤ n ∧ n < Text.size nestedHeader ∧
      braces.opened nestedHeader 9 n = braces.closed nestedHeader 9 n} 12 := by
  have hplace : Text.isBoundary 2 nestedHeader = true := by decide
  have hbyte : (Utf8.encode nestedHeader)[9]? = some (Utf8.byte '{') := by decide
  obtain ⟨hbrace, hparen⟩ := delimiters_balance
  exact ⟨hplace, ((hparen _ 2 hplace).2.1 8).1 (by decide), hbyte,
    ((hbrace _ 9 hbyte).2.1 12).1 (by decide)⟩

end Emend
