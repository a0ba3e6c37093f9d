import Mathlib.Data.List.Basic
import Emend.Proofs.Text.Cuts
import Emend.Proofs.Text.LineSpans
import Emend.Text.Comment
/-!
# Comments found byte by byte

Comments can be found without taking a text apart into characters: a scan goes over the bytes of
the UTF-8 form and notes the offsets at which comments start and end.  A backslash in a string may
take the first byte of a character with it.  `Checked.maskComments` is written so, with each cut
checked.

* The scan passes each character as a whole, so it notes places of the text only.
* It comes out of a string where the string ends (`Checked.endsString`), and it moves on with each
  step.

So it finds the comments that are blanked by `Text.maskComments` (`Checked.maskComments_eq`).
-/

namespace Emend

namespace Text

theorem maskFrom_keep {state next : CommentState} {c : Char} {t : Text}
    (h : state.step c t = (next, false)) : maskFrom state (c :: t) = c :: maskFrom next t := by
  rw [maskFrom, h]
  rfl

theorem maskFrom_hide {state next : CommentState} {c : Char} {t : Text}
    (h : state.step c t = (next, true)) :
    maskFrom state (c :: t) = blankChar c ++ maskFrom next t := by
  rw [maskFrom, h]
  rfl

end Text

namespace Checked

/-! ## The scan -/

/-- The offset behind the end of a string, of which the part from `n` on is looked at: behind the
quote or the line feed that ends it.  A backslash takes the byte after it with it. -/
def stringEnd (t : Text) (n : Nat) : Nat :=
  if n < Text.size t ∧ !byteIs t n '"' ∧ !byteIs t n '\n' then
    stringEnd t (if byteIs t n '\\' then n + 2 else n + 1)
  else n + 1
termination_by Text.size t - n
decreasing_by split <;> omega

theorem lt_stringEnd (t : Text) (n : Nat) : n < stringEnd t n := by
  induction n using stringEnd.induct t with
  | case1 n h ih =>
      have hlt : n < if byteIs t n '\\' then n + 2 else n + 1 := by split <;> omega
      rw [stringEnd, if_pos h]
      exact Nat.lt_trans hlt ih
  | case2 n h =>
      rw [stringEnd, if_neg h]
      exact Nat.lt_succ_self n

/-- The offset at which a comment ends that starts at `n` and goes to the end of the line; a
carriage return before the end is no part of it. -/
def lineStop (t : Text) (n : Nat) : Except Span Nat := do
  let (_, rest) ← cut n t
  let stop := match Text.breakOn? ['\n'] rest with
    | none => Text.size t
    | some (line, _) => n + Text.size line
  if 0 < stop ∧ stop ≤ Text.size t then
    return if byteIs t (stop - 1) '\r' then stop - 1 else stop
  else .error ⟨stop - 1, stop⟩

/-- The spans of the comments from an offset on.  A scan that would not move on has no end, and
this is a fault as well. -/
def comments (t : Text) (n : Nat) : Except Span (List Span) :=
  if n < Text.size t then
    if byteIs t n '"' then comments t (stringEnd t (n + 1))
    else if byteIs t n '/' && byteIs t (n + 1) '*' then do
      let (_, rest) ← cut (n + 2) t
      match Text.breakOn? ['*', '/'] rest with
      | none => comments t (n + 2)
      | some (body, _) =>
        let stop := n + 2 + Text.size body + 2
        (comments t stop).map (⟨n, stop⟩ :: ·)
    else if byteIs t n '#' || byteIs t n '/' && byteIs t (n + 1) '/' then do
      let stop ← lineStop t n
      if n < stop then (comments t stop).map (⟨n, stop⟩ :: ·)
      else .error ⟨n, stop⟩
    else comments t (n + 1)
  else .ok []
termination_by Text.size t - n
decreasing_by
  · have := lt_stringEnd t (n + 1)
    omega
  all_goals omega

/-- A masked text in which one more comment of the text is blanked. -/
def blank (t masked : Text) (s : Span) : Except Span Text := do
  let part ← slice t s
  let (before, _) ← cut s.start masked
  let (_, after) ← cut s.stop masked
  return before ++ part.flatMap Text.blankChar ++ after

/-- The text with its comments blanked, one after the other. -/
def maskComments (t : Text) : Except Span Text := do
  (← comments t 0).foldlM (blank t) t

variable {c d : Char} {head t : Text}

/-! ## Strings -/

/-- Inside a character a scan of a string goes on to its end. -/
theorem stringEnd_inside (head t : Text) {k : Nat} (hpos : 0 < k) (hk : k ≤ d.utf8Size) :
    stringEnd (head ++ d :: t) (Text.size head + k) =
      stringEnd (head ++ d :: t) (Text.size (head ++ [d])) := by
  refine pass_inside (t := t) ['"', '\n', '\\'] (by simp) (fun n hlt hnone => ?_) hk (.inl hpos)
  rw [stringEnd, hnone '"' (by decide), hnone '\n' (by decide), hnone '\\' (by decide)]
  simp [hlt]

/-- A text starts in a string and goes on behind it; `n` is where it does so, or it lies behind
the text and nothing is left. -/
def EndsString (state : Text.CommentState) (head t : Text) (n : Nat) : Prop :=
  ∃ inside after, t = inside ++ after ∧
    Text.maskFrom state t = inside ++ Text.maskFrom .code after ∧
    (n = Text.size (head ++ inside) ∨ after = [] ∧ Text.size (head ++ t) ≤ n)

theorem EndsString.nil (state : Text.CommentState) {head : Text} {n : Nat}
    (h : Text.size head ≤ n) : EndsString state head [] n :=
  ⟨[], [], rfl, rfl, .inr ⟨rfl, by rwa [List.append_nil]⟩⟩

theorem EndsString.here (head t : Text) : EndsString .code head t (Text.size head) :=
  ⟨[], t, rfl, rfl, .inl (by rw [List.append_nil])⟩

theorem EndsString.cons {state next : Text.CommentState} {n : Nat}
    (hstep : state.step c t = (next, false)) (h : EndsString next (head ++ [c]) t n) :
    EndsString state head (c :: t) n := by
  obtain ⟨inside, after, rfl, hmask, hn⟩ := h
  refine ⟨c :: inside, after, rfl, ?_, by simpa using hn⟩
  rw [Text.maskFrom_keep hstep, hmask, List.cons_append]

/-- The scan of a string, or of what follows a backslash in one, ends where the string does. -/
theorem endsString (head t : Text) :
    EndsString .string head t (stringEnd (head ++ t) (Text.size head)) ∧
      EndsString .escape head t (stringEnd (head ++ t) (Text.size head + 1)) := by
  induction t generalizing head with
  | nil =>
      exact ⟨.nil _ (Nat.le_of_lt (lt_stringEnd _ _)),
        .nil _ (Nat.le_of_lt (Nat.lt_of_succ_lt (lt_stringEnd _ _)))⟩
  | cons c t ih =>
      have hrest : head ++ [c] ++ t = head ++ c :: t := by simp
      obtain ⟨hstring, hescape⟩ := ih (head ++ [c])
      rw [hrest] at hstring hescape
      have hlt := size_lt head t c.utf8Size_pos
      rw [Nat.add_zero] at hlt
      constructor
      · rw [stringEnd, byteIs_cons (by decide), byteIs_cons (by decide), byteIs_cons (by decide)]
        by_cases hends : c = '"' ∨ c = '\n'
        · have hstep : Text.CommentState.step .string c t = (.code, false) := if_pos hends
          have hone : Text.size head + 1 = Text.size (head ++ [c]) := by
            rw [Text.size_append]
            rcases hends with rfl | rfl <;> rfl
          rw [if_neg (by rcases hends with rfl | rfl <;> simp), hone]
          exact .cons hstep (.here _ t)
        · obtain ⟨hquote, hfeed⟩ := not_or.1 hends
          rw [if_pos (by simp [hlt, hquote, hfeed])]
          by_cases hescapes : c = '\\'
          · have hstep : Text.CommentState.step .string c t = (.escape, false) :=
              (if_neg hends).trans (if_pos hescapes)
            have hone : Text.size head + 2 = Text.size (head ++ [c]) + 1 := by
              rw [Text.size_append, hescapes]
              rfl
            rw [if_pos (by simp [hescapes]), hone]
            exact .cons hstep hescape
          · have hstep : Text.CommentState.step .string c t = (.string, false) :=
              (if_neg hends).trans (if_neg hescapes)
            rw [if_neg (by simp [hescapes]), stringEnd_inside head t Nat.one_pos c.utf8Size_pos]
            exact .cons hstep hstring
      · rw [stringEnd_inside head t Nat.one_pos c.utf8Size_pos]
        exact .cons rfl hstring

end Checked

/-! ## Comments in a text -/

namespace Text

theorem size_blanked (t : Text) : size (t.flatMap blankChar) = size t := by
  induction t with
  | nil => rfl
  | cons c t ih => rw [List.flatMap_cons, size_append, size_blankChar, ih, size]

theorem breakOn?_close (c : Char) (t : Text) : breakOn? ['*', '/'] (c :: t) =
    if c = '*' ∧ t.head? = some '/' then some ([], t.tail)
    else (breakOn? ['*', '/'] t).map fun (before, after) => (c :: before, after) := by
  by_cases hc : c = '*'
  · cases t with
    | nil => simp [breakOn?, afterLead?, hc]
    | cons d t => by_cases hd : d = '/' <;> simp [breakOn?, afterLead?, hc, hd]
  · simp [breakOn?, afterLead?, hc]

theorem closesBlock_eq (t : Text) : closesBlock t = (breakOn? ['*', '/'] t).isSome := by
  induction t with
  | nil => rfl
  | cons c t ih =>
      rw [closesBlock, breakOn?_close, ih]
      by_cases hclose : c = '*' ∧ t.head? = some '/'
      · rw [if_pos hclose]
        simp [hclose]
      · rw [if_neg hclose, Option.isSome_map]
        simpa using fun hc ht => absurd ⟨hc, ht⟩ hclose

/-- A block comment is blanked up to the first star and slash. -/
theorem maskFrom_block {t body after : Text}
    (h : breakOn? ['*', '/'] t = some (body, after)) :
    maskFrom .block t = (body ++ ['*', '/']).flatMap blankChar ++ maskFrom .code after := by
  induction t generalizing body with
  | nil => cases h
  | cons c t ih =>
      rw [breakOn?_close] at h
      split at h
      · next hclose =>
        obtain ⟨rfl, htail⟩ := hclose
        obtain ⟨rest, rfl⟩ : ∃ rest, t = '/' :: rest := by
          cases t with
          | nil => cases htail
          | cons d rest => exact ⟨rest, by rw [Option.some.inj htail]⟩
        cases h
        rfl
      · next hclose =>
        obtain ⟨⟨front, back⟩, hbreak, heq⟩ := Option.map_eq_some_iff.1 h
        cases heq
        have hstep : CommentState.step .block c t = (.block, true) := if_neg hclose
        rw [maskFrom_hide hstep, ih hbreak]
        simp

theorem maskFrom_line {line : Text} (h : '\n' ∉ line) (rest : Text) :
    maskFrom .line (line ++ rest) = line.flatMap blankChar ++ maskFrom .line rest := by
  induction line with
  | nil => rfl
  | cons c line ih =>
      have hc : c ≠ '\n' := (List.ne_of_not_mem_cons h).symm
      have hstep : CommentState.step .line c (line ++ rest) = (.line, true) := if_neg hc
      rw [List.cons_append, maskFrom_hide hstep, ih (List.not_mem_of_not_mem_cons h)]
      simp

/-- A line comment is blanked up to the end of its line, with which other text goes on. -/
theorem maskFrom_lineComment {line rest : Text} {c : Char} (hline : '\n' ∉ c :: line)
    (hrest : rest = [] ∨ rest.head? = some '\n')
    (hstep : CommentState.afterCode c (line ++ rest) = (.line, true)) :
    maskFrom .code (c :: line ++ rest) =
      (c :: line).flatMap blankChar ++ maskFrom .code rest := by
  have hend : maskFrom .line rest = maskFrom .code rest := by
    rcases hrest with rfl | hrest
    · rfl
    · cases rest with
      | nil => rfl
      | cons d rest =>
          cases hrest
          rfl
  rw [List.cons_append, @maskFrom_hide .code _ _ _ hstep,
    maskFrom_line (List.not_mem_of_not_mem_cons hline), hend]
  simp

end Text

namespace Checked

variable {head part rest : Text}

/-! ## From place to place -/

/-- From a place of a text on, the scan finds spans, and to blank them in a text that is the same
from there on is to mask this part. -/
def MasksFrom (head rest : Text) : Prop :=
  ∃ spans, comments (head ++ rest) (Text.size head) = .ok spans ∧
    ∀ front, Text.size front = Text.size head →
      spans.foldlM (blank (head ++ rest)) (front ++ rest) =
        .ok (front ++ Text.maskFrom .code rest)

theorem comments_end {t : Text} {n : Nat} (h : Text.size t ≤ n) : comments t n = .ok [] := by
  rw [comments, if_neg (Nat.not_lt.2 h)]

theorem masksFrom_nil (head : Text) : MasksFrom head [] := by
  refine ⟨[], comments_end (Nat.le_of_eq (by rw [List.append_nil])), fun front _ => ?_⟩
  rw [List.foldlM_nil]
  rfl

/-- Text that is no comment is passed over. -/
theorem MasksFrom.skip (h : MasksFrom (head ++ part) rest)
    (hscan : comments (head ++ (part ++ rest)) (Text.size head) =
      comments (head ++ (part ++ rest)) (Text.size (head ++ part)))
    (hmask : Text.maskFrom .code (part ++ rest) = part ++ Text.maskFrom .code rest) :
    MasksFrom head (part ++ rest) := by
  obtain ⟨spans, hspans, hblank⟩ := h
  rw [List.append_assoc] at hspans hblank
  refine ⟨spans, hscan.trans hspans, fun front hfront => ?_⟩
  have hsize : Text.size (front ++ part) = Text.size (head ++ part) := by
    rw [Text.size_append, Text.size_append, hfront]
  have hrest := hblank (front ++ part) hsize
  rwa [List.append_assoc, List.append_assoc, ← hmask] at hrest

/-- A comment is blanked. -/
theorem blank_eq (head part rest : Text) {front : Text}
    (hfront : Text.size front = Text.size head) :
    blank (head ++ (part ++ rest)) (front ++ (part ++ rest))
        ⟨Text.size head, Text.size (head ++ part)⟩ =
      .ok (front ++ part.flatMap Text.blankChar ++ rest) := by
  have hpart : slice (head ++ (part ++ rest)) ⟨Text.size head, Text.size (head ++ part)⟩ =
      .ok part := by
    have hslice := Text.slice?_iff.2
      ⟨head, rest, (List.append_assoc head part rest).symm, rfl, (Text.size_append head part).symm⟩
    rw [slice, hslice]
  have hstart : cut (Text.size head) (front ++ (part ++ rest)) = .ok (front, part ++ rest) := by
    rw [← hfront, cut_ok]
  have hstop : cut (Text.size (head ++ part)) (front ++ (part ++ rest)) =
      .ok (front ++ part, rest) := by
    have hsize : Text.size (head ++ part) = Text.size (front ++ part) := by
      rw [Text.size_append, Text.size_append, hfront]
    rw [hsize, ← List.append_assoc, cut_ok]
  simp only [blank, hpart, hstart, hstop]
  rfl

theorem MasksFrom.comment (h : MasksFrom (head ++ part) rest)
    (hscan : comments (head ++ (part ++ rest)) (Text.size head) =
      (comments (head ++ (part ++ rest)) (Text.size (head ++ part))).map
        (⟨Text.size head, Text.size (head ++ part)⟩ :: ·))
    (hmask : Text.maskFrom .code (part ++ rest) =
      part.flatMap Text.blankChar ++ Text.maskFrom .code rest) :
    MasksFrom head (part ++ rest) := by
  obtain ⟨spans, hspans, hblank⟩ := h
  rw [List.append_assoc] at hspans hblank
  rw [hspans] at hscan
  refine ⟨_, hscan, fun front hfront => ?_⟩
  have hsize : Text.size (front ++ part.flatMap Text.blankChar) = Text.size (head ++ part) := by
    rw [Text.size_append, Text.size_append, Text.size_blanked, hfront]
  have hrest := hblank _ hsize
  rw [List.foldlM_cons, blank_eq head part rest hfront, hmask, ← List.append_assoc front]
  exact hrest

/-- A text starts with a line, and what follows it starts with a line feed, if anything does. -/
theorem exists_line (t : Text) :
    ∃ line rest, t = line ++ rest ∧ '\n' ∉ line ∧ (rest = [] ∨ rest.head? = some '\n') := by
  rcases Text.breakOn?_singleton '\n' t with ⟨hnone, -⟩ | ⟨line, after, heq, hline, -⟩
  · exact ⟨t, [], (List.append_nil t).symm, hnone, .inl rfl⟩
  · exact ⟨line, '\n' :: after, heq, hline, .inr rfl⟩

/-- The scan of a line ends with it, or before the carriage return at its end. -/
theorem lineStop_line (head : Text) {c : Char} {line rest : Text} (hline : '\n' ∉ c :: line)
    (hrest : rest = [] ∨ rest.head? = some '\n') :
    lineStop (head ++ (c :: line ++ rest)) (Text.size head) =
      .ok (if (c :: line).getLast? = some '\r' then Text.size (head ++ c :: line) - 1
        else Text.size (head ++ c :: line)) := by
  have hend : (match Text.breakOn? ['\n'] (c :: line ++ rest) with
      | none => Text.size (head ++ (c :: line ++ rest))
      | some (line, _) => Text.size head + Text.size line) = Text.size (head ++ c :: line) := by
    rcases hrest with rfl | hfeed
    · have hnone := (Text.breakOn?_singleton '\n' (c :: line)).resolve_right ?_
      · rw [List.append_nil, hnone.2]
      · rintro ⟨before, after, heq, -⟩
        exact hline (by rw [heq]; simp)
    · obtain ⟨after, rfl⟩ := List.head?_eq_some_iff.1 hfeed
      rw [Text.breakOn?_append hline]
      exact (Text.size_append _ _).symm
  have hpos : 0 < Text.size (head ++ c :: line) := by
    have := size_lt head line c.utf8Size_pos
    omega
  have hle : Text.size (head ++ c :: line) ≤ Text.size (head ++ (c :: line ++ rest)) := by
    rw [← List.append_assoc, Text.size_append (head ++ c :: line)]
    exact Nat.le_add_right _ _
  have hreturn := byteIs_before (c := '\r') (by decide) (head ++ c :: line) rest (by simp)
  rw [List.getLast?_append_cons, List.append_assoc] at hreturn
  simp only [lineStop, cut_ok, bind, Except.bind, pure, Except.pure, hend]
  rw [if_pos ⟨hpos, hle⟩]
  simp only [hreturn]

/-- The end of a line is cut off, and the carriage return before it. -/
theorem lineStop_eq (head : Text) {c : Char} {t : Text} (hc : c ≠ '\r')
    (hstep : Text.CommentState.afterCode c t = (.line, true)) :
    ∃ part rest, c :: t = part ++ rest ∧ part ≠ [] ∧
      lineStop (head ++ c :: t) (Text.size head) = .ok (Text.size (head ++ part)) ∧
      Text.maskFrom .code (c :: t) =
        part.flatMap Text.blankChar ++ Text.maskFrom .code rest := by
  have hfeed : c ≠ '\n' := by
    rintro rfl
    simp [Text.CommentState.afterCode] at hstep
  obtain ⟨line, rest, rfl, hline, hrest⟩ := exists_line t
  have hline : '\n' ∉ c :: line := by simpa using ⟨hfeed.symm, hline⟩
  have hmask := Text.maskFrom_lineComment hline hrest hstep
  have hstop := lineStop_line head hline hrest
  by_cases hlast : (c :: line).getLast? = some '\r'
  · obtain ⟨part, hpart⟩ := List.getLast?_eq_some_iff.1 hlast
    refine ⟨part, '\r' :: rest, by simp [← List.cons_append, hpart], ?_, ?_, ?_⟩
    · rintro rfl
      cases hpart
      exact hc rfl
    · refine hstop.trans ?_
      rw [if_pos hlast, hpart, ← List.append_assoc, Text.size_append (head ++ part)]
      rfl
    · rw [← List.cons_append, hmask, hpart, List.flatMap_append, List.append_assoc]
      rfl
  · exact ⟨c :: line, rest, rfl, List.cons_ne_nil c line, hstop.trans (by rw [if_neg hlast]), hmask⟩

/-! ## The scan of a whole text -/

/-- Inside a character the scan goes on to its end. -/
theorem comments_inside (head t : Text) {k : Nat} (hpos : 0 < k) (hk : k ≤ d.utf8Size) :
    comments (head ++ d :: t) (Text.size head + k) =
      comments (head ++ d :: t) (Text.size (head ++ [d])) := by
  refine pass_inside (t := t) ['"', '/', '#'] (by simp) (fun n hlt hnone => ?_) hk (.inl hpos)
  rw [comments, hnone '"' (by decide), hnone '/' (by decide), hnone '#' (by decide)]
  simp [hlt]

theorem byteIs_slash (hc : c.toNat < 0x80) (head t : Text) :
    (byteIs (head ++ d :: t) (Text.size head) '/' &&
      byteIs (head ++ d :: t) (Text.size head + 1) c) = decide (d = '/' ∧ t.head? = some c) := by
  rw [byteIs_cons (by decide)]
  by_cases hd : d = '/'
  · rw [hd, byteIs_next hc rfl]
    simp
  · simp [hd]

/-- What the scan does at a place is told by the characters there. -/
theorem comments_cons (head : Text) (c : Char) (t : Text) :
    comments (head ++ c :: t) (Text.size head) =
      if c = '"' then
        comments (head ++ c :: t) (stringEnd (head ++ c :: t) (Text.size head + 1))
      else if c = '/' ∧ t.head? = some '*' then do
        let (_, rest) ← cut (Text.size head + 2) (head ++ c :: t)
        match Text.breakOn? ['*', '/'] rest with
        | none => comments (head ++ c :: t) (Text.size head + 2)
        | some (body, _) =>
          let stop := Text.size head + 2 + Text.size body + 2
          (comments (head ++ c :: t) stop).map (⟨Text.size head, stop⟩ :: ·)
      else if c = '#' ∨ c = '/' ∧ t.head? = some '/' then do
        let stop ← lineStop (head ++ c :: t) (Text.size head)
        if Text.size head < stop then
          (comments (head ++ c :: t) stop).map (⟨Text.size head, stop⟩ :: ·)
        else .error ⟨Text.size head, stop⟩
      else comments (head ++ c :: t) (Text.size head + 1) := by
  have hlt := size_lt head t c.utf8Size_pos
  rw [Nat.add_zero] at hlt
  rw [comments, if_pos hlt, byteIs_slash (by decide), byteIs_slash (by decide),
    byteIs_cons (by decide), byteIs_cons (by decide)]
  simp only [Bool.or_eq_true, decide_eq_true_eq]

/-- The scan goes on behind the first part of a text. -/
def PassedAt (head t : Text) : Prop := ∃ part rest, t = part ++ rest ∧ part ≠ [] ∧
  (MasksFrom (head ++ part) rest → MasksFrom head t)

theorem passedAt_string (head t : Text) : PassedAt head ('"' :: t) := by
  have hone : Text.size (head ++ ['"']) = Text.size head + 1 := Text.size_append head ['"']
  have hsplit : head ++ ['"'] ++ t = head ++ '"' :: t := by simp
  obtain ⟨inside, after, rfl, hmask, hend⟩ := (endsString (head ++ ['"']) t).1
  have hsame : head ++ ['"'] ++ inside = head ++ '"' :: inside := by simp
  rw [hsplit, hone, hsame] at hend
  refine ⟨'"' :: inside, after, rfl, List.cons_ne_nil _ _, fun h => h.skip ?_ ?_⟩
  · refine (comments_cons head '"' (inside ++ after)).trans ((if_pos rfl).trans ?_)
    rcases hend with heq | ⟨rfl, hle⟩
    · rw [heq]
      rfl
    · rw [comments_end hle, List.append_nil]
      exact (comments_end (Nat.le_refl _)).symm
  · have hstep : Text.CommentState.step .code '"' (inside ++ after) = (.string, false) := rfl
    rw [List.cons_append, Text.maskFrom_keep hstep, hmask, List.cons_append]

theorem passedAt_block (head t : Text) : PassedAt head ('/' :: '*' :: t) := by
  have htwo : Text.size (head ++ ['/', '*']) = Text.size head + 2 :=
    Text.size_append head ['/', '*']
  have hsplit : head ++ '/' :: '*' :: t = head ++ ['/', '*'] ++ t := by simp
  have hscan := comments_cons head '/' ('*' :: t)
  rw [if_neg (by decide), if_pos (by simp), ← htwo, hsplit, cut_ok] at hscan
  have hcloses := Text.closesBlock_eq t
  dsimp only [bind, Except.bind] at hscan
  cases hbreak : Text.breakOn? ['*', '/'] t with
  | none =>
      rw [hbreak] at hscan hcloses
      have hstep : Text.CommentState.step .code '/' ('*' :: t) = (.star, false) := by
        simp [Text.CommentState.step, Text.CommentState.afterCode, hcloses]
      refine ⟨['/', '*'], t, rfl, List.cons_ne_nil _ _, fun h => h.skip ?_ ?_⟩
      · rwa [List.append_assoc] at hscan
      · show Text.maskFrom .code ('/' :: '*' :: t) = _
        rw [Text.maskFrom_keep hstep, @Text.maskFrom_keep .star _ _ _ rfl]
        rfl
  | some found =>
      obtain ⟨body, after⟩ := found
      rw [hbreak] at hscan hcloses
      have hstep : Text.CommentState.step .code '/' ('*' :: t) = (.blockOpen, true) := by
        simp [Text.CommentState.step, Text.CommentState.afterCode, hcloses]
      have hmask : Text.maskFrom .code ('/' :: '*' :: t) =
          ('/' :: '*' :: (body ++ ['*', '/'])).flatMap Text.blankChar ++
            Text.maskFrom .code after := by
        rw [Text.maskFrom_hide hstep, @Text.maskFrom_hide .blockOpen _ _ _ rfl,
          Text.maskFrom_block hbreak]
        simp
      have hstop : Text.size (head ++ ['/', '*']) + Text.size body + 2 =
          Text.size (head ++ '/' :: '*' :: (body ++ ['*', '/'])) := by
        simp only [Text.size_append, Text.size, show Char.utf8Size '/' = 1 from rfl,
          show Char.utf8Size '*' = 1 from rfl]
        omega
      dsimp only at hscan
      obtain rfl := Text.breakOn?_eq_some hbreak
      rw [hstop] at hscan
      refine ⟨'/' :: '*' :: (body ++ ['*', '/']), after, by simp, List.cons_ne_nil _ _, fun h => ?_⟩
      have hwhole := h.comment (by simpa using hscan) (by simpa using hmask)
      simpa using hwhole

theorem passedAt_line (head t : Text) (hopens : c = '#' ∨ c = '/' ∧ t.head? = some '/') :
    PassedAt head (c :: t) := by
  have hstep : Text.CommentState.afterCode c t = (.line, true) := by
    rcases hopens with rfl | ⟨rfl, hnext⟩ <;> simp [Text.CommentState.afterCode, *]
  obtain ⟨part, rest, heq, hpart, hstop, hmask⟩ := lineStop_eq head
    (by rcases hopens with rfl | ⟨rfl, -⟩ <;> decide) hstep
  have hscan := comments_cons head c t
  have hquote : c ≠ '"' := by rcases hopens with rfl | ⟨rfl, -⟩ <;> decide
  have hblock : ¬ (c = '/' ∧ t.head? = some '*') := by
    rcases hopens with rfl | ⟨rfl, hnext⟩ <;> simp [*]
  rw [if_neg hquote, if_neg hblock, if_pos hopens, hstop] at hscan
  refine ⟨part, rest, heq, hpart, fun h => ?_⟩
  rw [heq] at hmask hscan ⊢
  refine h.comment ?_ hmask
  refine hscan.trans (if_pos ?_)
  rw [Text.size_append]
  cases part with
  | nil => exact absurd rfl hpart
  | cons d part =>
    rw [Text.size]
    have := d.utf8Size_pos
    omega

theorem passedAt_char (head t : Text) (hquote : c ≠ '"')
    (hblock : ¬ (c = '/' ∧ t.head? = some '*'))
    (hline : ¬ (c = '#' ∨ c = '/' ∧ t.head? = some '/')) : PassedAt head (c :: t) := by
  obtain ⟨hhash, hslash⟩ := not_or.1 hline
  have hstep : Text.CommentState.step .code c t = (.code, false) := by
    simp only [Text.CommentState.step, Text.CommentState.afterCode, if_neg hquote, if_neg hhash,
      if_neg hblock, if_neg hslash]
  have hscan := comments_cons head c t
  rw [if_neg hquote, if_neg hblock, if_neg hline,
    comments_inside head t Nat.one_pos c.utf8Size_pos] at hscan
  exact ⟨[c], t, rfl, List.cons_ne_nil _ _, fun h => h.skip hscan (Text.maskFrom_keep hstep)⟩

/-- The scan goes on behind a string, behind a comment or with the next character. -/
theorem passedAt_cons (head : Text) (c : Char) (t : Text) : PassedAt head (c :: t) := by
  by_cases hquote : c = '"'
  · exact hquote ▸ passedAt_string head t
  by_cases hblock : c = '/' ∧ t.head? = some '*'
  · obtain ⟨rfl, hnext⟩ := hblock
    cases t with
    | nil => cases hnext
    | cons d t =>
        cases hnext
        exact passedAt_block head t
  by_cases hline : c = '#' ∨ c = '/' ∧ t.head? = some '/'
  · exact passedAt_line head t hline
  · exact passedAt_char head t hquote hblock hline

theorem masksFrom (head rest : Text) : MasksFrom head rest := by
  match rest with
  | [] => exact masksFrom_nil head
  | c :: t =>
      obtain ⟨part, rest, heq, hpart, hstep⟩ := passedAt_cons head c t
      have hshort : rest.length < (c :: t).length := by
        rw [heq, List.length_append]
        have := List.length_pos_iff.2 hpart
        omega
      exact hstep (masksFrom (head ++ part) rest)
termination_by rest.length
decreasing_by exact hshort

/-- The comments that are found byte by byte are those that are blanked, and no cut is made where
there is no place. -/
theorem maskComments_eq (t : Text) : maskComments t = .ok (Text.maskComments t) := by
  obtain ⟨spans, hspans, hblank⟩ := masksFrom [] t
  have hall := hblank [] rfl
  rw [List.nil_append] at hspans hall
  rw [maskComments, show (0 : Nat) = Text.size [] from rfl, hspans]
  exact hall

end Checked

end Emend
