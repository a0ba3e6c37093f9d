import Emend.Proofs.Text.Masks
import Emend.Match.Tokens
/-!
# Tokens index the text

Tokens are found in a text of which the comments may be masked, and they are taken for parts of the
text itself.

*Words at their places.*  The words of a text and the blanks around them make up the text
(`Placed`): each word is a part of it at its span (`Placed.part`), blanks stand between two of them
(`Placed.separated`), and each character that is no blank is one of a word (`Placed.exists_holds`).

*Tokens.*  A token is a word of the working text, which is the text or its mask.  Both have the
word at one span (`exists_place`), so its text is the one that is there (`text_span_of_mem`), and
no character of it is masked (`charAt_of_holds`).  The spans fit the text and come in order
(`tokens_rows`).
-/

namespace Emend

/-! ## Characters at offsets -/

/-- A text has a character at an offset. -/
def Text.CharAt (t : Text) (n : Nat) (c : Char) : Prop :=
  ∃ before after, t = before ++ c :: after ∧ Text.size before = n

/-- A character at an offset lies in a span. -/
def Span.Holds (s : Span) (n : Nat) (c : Char) : Prop := s.start ≤ n ∧ n + c.utf8Size ≤ s.stop

/-- Two spans that hold one character are not apart. -/
theorem Span.Holds.not_lt {s u : Span} {n : Nat} {c : Char} (hs : s.Holds n c) (hu : u.Holds n c) :
    ¬ s.stop < u.start := by
  have hpos := c.utf8Size_pos
  have hstop := hs.2
  have hstart := hu.1
  omega

namespace Text.CharAt

variable {t a b : Text} {n k : Nat} {c d : Char}

theorem mem (h : CharAt t n c) : c ∈ t := by
  obtain ⟨before, after, rfl, -⟩ := h
  simp

theorem add_le_size (h : CharAt t n c) : n + c.utf8Size ≤ size t := by
  obtain ⟨before, after, rfl, rfl⟩ := h
  rw [size_append, size]
  omega

/-- There is one character at an offset. -/
theorem unique (h : CharAt t n c) (h' : CharAt t n d) : c = d := by
  obtain ⟨before, after, rfl, rfl⟩ := h
  obtain ⟨front, back, heq, hsize⟩ := h'
  obtain ⟨more, rfl, hrest⟩ := append_eq_of_size_le heq (Nat.le_of_eq hsize.symm)
  rw [size_append] at hsize
  obtain rfl : more = [] := eq_nil_of_size (by omega)
  exact (List.cons.inj hrest).1

theorem append_right (h : CharAt b n c) (a : Text) : CharAt (a ++ b) (size a + n) c := by
  obtain ⟨before, after, rfl, rfl⟩ := h
  exact ⟨a ++ before, after, by rw [List.append_assoc], size_append a before⟩

theorem append_left (h : CharAt a n c) (b : Text) : CharAt (a ++ b) n c := by
  obtain ⟨before, after, rfl, rfl⟩ := h
  exact ⟨before, after ++ b, by simp, rfl⟩

/-- A character of two parts belongs to the first one or to the second one. -/
theorem of_append (h : CharAt (a ++ b) n c) :
    CharAt a n c ∨ ∃ k, n = size a + k ∧ CharAt b k c := by
  obtain ⟨before, after, heq, rfl⟩ := h
  rcases List.append_eq_append_iff.1 heq with ⟨more, rfl, hb⟩ | ⟨more, rfl, hafter⟩
  · exact .inr ⟨size more, size_append a more, more, after, hb, rfl⟩
  · cases more with
    | nil => exact .inr ⟨0, by simp, [], after, by simpa using hafter.symm, rfl⟩
    | cons e more =>
        cases hafter
        exact .inl ⟨before, more, rfl, rfl⟩

/-- A character at the span of a part is one of the part. -/
theorem of_holds {before part after : Text} (h : CharAt (before ++ part ++ after) n c)
    (hholds : Span.Holds ⟨size before, size before + size part⟩ n c) :
    ∃ k, n = size before + k ∧ CharAt part k c := by
  obtain ⟨hle, hstop⟩ := hholds
  have hpos := c.utf8Size_pos
  rcases h.of_append with h | ⟨k, rfl, -⟩
  · rcases h.of_append with h | hpart
    · have hfront := h.add_le_size
      simp only at hle
      omega
    · exact hpart
  · rw [size_append] at hstop
    simp only at hstop
    omega

end Text.CharAt

namespace Tokens

/-! ## Words at their places -/

/-- The words of a text from an offset on, each at its span. -/
inductive Placed : Nat → Text → List Token → Prop where
  /-- There are only blanks. -/
  | blanks {offset : Nat} {gap : Text} : (∀ b ∈ gap, isBlank b = true) → Placed offset gap []
  /-- There is a word after blanks, with a blank or the end of the text after it. -/
  | word {offset : Nat} {gap word rest : Text} {tokens : List Token} :
    (∀ b ∈ gap, isBlank b = true) → word ≠ [] → Text.Solid word →
    (∀ c, rest.head? = some c → isBlank c = true) →
    Placed (offset + Text.size gap + Text.size word) rest tokens →
    Placed offset (gap ++ word ++ rest)
      (⟨word, ⟨offset + Text.size gap, offset + Text.size gap + Text.size word⟩⟩ :: tokens)

namespace Placed

variable {offset : Nat} {t : Text} {tokens : List Token} {c d : Char}

/-- A blank before a text makes the first gap longer. -/
theorem cons_blank (hc : isBlank c = true) (h : Placed (offset + c.utf8Size) t tokens) :
    Placed offset (c :: t) tokens := by
  cases h with
  | blanks hgap => exact .blanks (List.forall_mem_cons.2 ⟨hc, hgap⟩)
  | @word _ gap word rest _ hgap hne hsolid hrest hplaced =>
      rw [Nat.add_assoc offset] at hplaced ⊢
      have hlonger : ∀ b ∈ c :: gap, isBlank b = true := List.forall_mem_cons.2 ⟨hc, hgap⟩
      exact .word hlonger hne hsolid hrest hplaced

/-- A word at the start of a text has no gap before it. -/
theorem first_word {word rest : Text} (hne : word ≠ []) (hsolid : Text.Solid word)
    (hrest : ∀ c, rest.head? = some c → isBlank c = true)
    (h : Placed (offset + Text.size word) rest tokens) :
    Placed offset (word ++ rest) (⟨word, ⟨offset, offset + Text.size word⟩⟩ :: tokens) :=
  .word (List.forall_mem_nil _) hne hsolid hrest h

/-- A character before a blank, or at the end of the text, is a word. -/
theorem cons_word (hc : isBlank c = false) (ht : ∀ d, t.head? = some d → isBlank d = true)
    (h : Placed (offset + c.utf8Size) t tokens) :
    Placed offset (c :: t) (⟨[c], ⟨offset, offset + c.utf8Size⟩⟩ :: tokens) := by
  have hsolid : Text.Solid [c] := by simpa [Text.Solid] using hc
  exact first_word (List.cons_ne_nil c []) hsolid ht h

/-- A character before a word makes the word longer. -/
theorem cons_cons (hc : isBlank c = false) (hd : isBlank d = false)
    (h : Placed (offset + c.utf8Size) (d :: t) tokens) : ∃ token rest, tokens = token :: rest ∧
      Placed offset (c :: d :: t) (⟨c :: token.text, ⟨offset, token.span.stop⟩⟩ :: rest) := by
  generalize ht : d :: t = text at h
  cases h with
  | blanks hgap =>
      subst ht
      rw [hgap d List.mem_cons_self] at hd
      cases hd
  | @word _ gap word rest tokens hgap hne hsolid hrest hplaced =>
      -- The text starts with no blank, so there is no gap before the word.
      cases gap with
      | cons b gap =>
          cases ht
          rw [hgap d List.mem_cons_self] at hd
          cases hd
      | nil =>
          have hlonger : Text.Solid (c :: word) := List.forall_mem_cons.2 ⟨by simp [hc], hsolid⟩
          refine ⟨_, tokens, rfl, ?_⟩
          rw [Text.size, Nat.add_zero, Nat.add_assoc] at hplaced ⊢
          exact first_word (List.cons_ne_nil c word) hlonger hrest hplaced

end Placed

theorem placed_wordsFrom (offset : Nat) (t : Text) : Placed offset t (wordsFrom offset t) := by
  induction t generalizing offset with
  | nil => exact .blanks (by simp)
  | cons c t ih =>
      have ht := ih (offset + c.utf8Size)
      rw [wordsFrom]
      cases hc : isBlank c with
      | true => exact ht.cons_blank hc
      | false =>
      cases t with
      | nil => exact ht.cons_word hc (by simp)
      | cons d t =>
      cases hd : isBlank d with
      | true =>
          have hword := ht.cons_word hc (by simpa using hd)
          cases hwords : wordsFrom (offset + c.utf8Size) (d :: t) with
          | nil => rwa [hwords] at hword
          | cons token tokens => simpa [hwords, hd] using hword
      | false =>
          obtain ⟨token, tokens, hwords, hword⟩ := ht.cons_cons hc hd
          simpa [hwords, hd] using hword

namespace Placed

variable {offset n : Nat} {t : Text} {tokens : List Token} {token : Token} {c : Char}

/-- Each word is a part of the text at its span. -/
theorem part (h : Placed offset t tokens) (hmem : token ∈ tokens) :
    token.text ≠ [] ∧ Text.Solid token.text ∧ ∃ before after,
      t = before ++ token.text ++ after ∧ token.span =
        ⟨offset + Text.size before, offset + Text.size before + Text.size token.text⟩ := by
  induction h with
  | blanks => cases hmem
  | @word offset gap word rest tokens _ hne hsolid _ _ ih =>
      rcases List.mem_cons.1 hmem with rfl | hmem
      · exact ⟨hne, hsolid, gap, rest, rfl, rfl⟩
      · obtain ⟨hne, hsolid, before, after, rfl, hspan⟩ := ih hmem
        refine ⟨hne, hsolid, gap ++ word ++ before, after, by simp, ?_⟩
        rw [hspan, Text.size_append, Text.size_append]
        simp only [Nat.add_assoc]

/-- The words of a text that starts with a blank come after the blank. -/
theorem lt_start (h : Placed offset t tokens) (ht : ∀ c, t.head? = some c → isBlank c = true)
    (hmem : token ∈ tokens) : offset < token.span.start := by
  obtain ⟨hne, hsolid, before, after, rfl, hspan⟩ := h.part hmem
  obtain ⟨c, word, hword⟩ := List.exists_cons_of_ne_nil hne
  have hbefore : Text.size before ≠ 0 := fun hzero => by
    rw [Text.eq_nil_of_size hzero, hword] at ht
    exact hsolid c (by simp [hword]) (ht c rfl)
  rw [hspan]
  exact Nat.lt_add_of_pos_right (Nat.pos_of_ne_zero hbefore)

/-- There is a blank between two words. -/
theorem separated (h : Placed offset t tokens) :
    tokens.Pairwise fun a b => a.span.stop < b.span.start := by
  induction h with
  | blanks => exact .nil
  | word _ _ _ hrest hplaced ih =>
      exact List.pairwise_cons.2 ⟨fun _ hmem => hplaced.lt_start hrest hmem, ih⟩

/-- A character that is no blank is one of a word. -/
theorem exists_holds (h : Placed offset t tokens) (hn : Text.CharAt t n c)
    (hc : isBlank c = false) : ∃ token ∈ tokens, token.span.Holds (offset + n) c := by
  induction h generalizing n with
  | blanks hgap =>
      rw [hgap c hn.mem] at hc
      cases hc
  | @word offset gap word rest tokens hgap _ _ _ _ ih =>
      rcases hn.of_append with hn | ⟨k, rfl, hk⟩
      · rcases hn.of_append with hn | ⟨k, rfl, hk⟩
        · rw [hgap c hn.mem] at hc
          cases hc
        · have hle := hk.add_le_size
          refine ⟨_, List.mem_cons_self, ?_, ?_⟩ <;> simp only <;> omega
      · obtain ⟨token, hmem, hholds⟩ := ih hk
        rw [Text.size_append, ← Nat.add_assoc, ← Nat.add_assoc]
        exact ⟨token, List.mem_cons_of_mem _ hmem, hholds⟩

end Placed

/-! ## Tokens at their places -/

/-- The text in which words are looked for. -/
def working (folding : Folding) (t : Text) : Text :=
  if folding.ignoreComments then Text.maskComments t else t

/-- A word with its letters in lower case, where case does not matter. -/
def folded (folding : Folding) (word : Token) : Token :=
  { word with text := if folding.caseSensitive then word.text else Text.lowercase word.text }

theorem ofText_eq (folding : Folding) (t : Text) :
    ofText folding t = (wordsFrom 0 (working folding t)).map (folded folding) := by
  unfold ofText working folded
  dsimp only
  cases folding.caseSensitive <;> simp

theorem masks_working (folding : Folding) (t : Text) : Masks t (working folding t) := by
  unfold working
  split
  · exact masks_maskFrom .code t
  · exact masks_refl t

/-- A character that is where it was once comments are masked. -/
theorem charAt_working {folding : Folding} {t : Text} {n : Nat} {c : Char}
    (hn : Text.CharAt t n c) : Text.CharAt (working folding t) n c ↔
      (folding.ignoreComments = true → Text.CharAt (Text.maskComments t) n c) := by
  unfold working
  split
  · next h => simp [h]
  · next h => simp [h, hn]

variable {folding : Folding} {t : Text} {word : Token}

/-- A word of the working text is a part of it and of the text, at one span. -/
theorem exists_place (hmem : word ∈ wordsFrom 0 (working folding t)) :
    ∃ before after front back, t = before ++ word.text ++ after ∧
      working folding t = front ++ word.text ++ back ∧ Text.size before = Text.size front ∧
      word.span = ⟨Text.size before, Text.size before + Text.size word.text⟩ := by
  obtain ⟨hne, hsolid, front, back, hmask, hspan⟩ := (placed_wordsFrom 0 _).part hmem
  obtain ⟨before, after, ht, hsize⟩ := (masks_working folding t).exists_part hne hsolid hmask
  rw [Nat.zero_add, ← hsize] at hspan
  exact ⟨before, after, front, back, ht, hmask, hsize, hspan⟩

/-- A word is the text at its span. -/
theorem text_span_of_mem (hmem : word ∈ wordsFrom 0 (working folding t)) :
    word.span.start < word.span.stop ∧ word.span.Fits t ∧ word.span.text t = word.text := by
  obtain ⟨before, after, _, _, rfl, _, _, hspan⟩ := exists_place hmem
  have hne := ((placed_wordsFrom 0 _).part hmem).1
  have hpos : 0 < Text.size word.text := Nat.pos_of_ne_zero (mt Text.eq_nil_of_size hne)
  rw [hspan]
  exact ⟨Nat.lt_add_of_pos_right hpos, Span.fits_iff.2 ⟨before, word.text, after, rfl, rfl⟩,
    Span.text_append before word.text after⟩

/-- The characters of the text at the span of a word are no blanks, and none is masked. -/
theorem charAt_of_holds (hmem : word ∈ wordsFrom 0 (working folding t)) {n : Nat} {c : Char}
    (hn : Text.CharAt t n c) (hholds : word.span.Holds n c) :
    isBlank c = false ∧ Text.CharAt (working folding t) n c := by
  obtain ⟨before, after, front, back, rfl, hmask, hsize, hspan⟩ := exists_place hmem
  have hsolid := ((placed_wordsFrom 0 _).part hmem).2.1
  rw [hspan] at hholds
  obtain ⟨k, rfl, hk⟩ := hn.of_holds hholds
  refine ⟨by simpa using hsolid c hk.mem, ?_⟩
  rw [hmask, hsize]
  exact (hk.append_right front).append_left back

/-- The spans of the tokens of a text fit it and come in order. -/
theorem tokens_rows (folding : Folding) (t : Text) :
    Text.Rows t ((ofText folding t).map Token.span) := by
  rw [ofText_eq, List.map_map]
  refine ⟨List.forall_mem_map.2 fun word hmem => (text_span_of_mem hmem).2.1,
    List.pairwise_map.2 ?_⟩
  refine (placed_wordsFrom 0 (working folding t)).separated.imp_of_mem fun {a b} ha _ hlt => ?_
  exact Nat.le_of_lt (Nat.lt_trans (text_span_of_mem ha).1 hlt)

/-- Tokens with room between them hold no common character. -/
theorem eq_of_holds {tokens : List Token}
    (h : tokens.Pairwise fun a b => a.span.stop < b.span.start) {a b : Token} (ha : a ∈ tokens)
    (hb : b ∈ tokens) {n : Nat} {c : Char} :
    a.span.Holds n c → b.span.Holds n c → a = b := by
  refine List.Pairwise.forall_of_forall_of_flip
    (R := fun a b : Token => a.span.Holds n c → b.span.Holds n c → a = b)
    (fun _ _ _ _ => rfl) (h.imp ?first) (h.imp ?second) ha hb
  case first => exact fun hlt ha hb => absurd hlt (ha.not_lt hb)
  case second => exact fun {a b} hlt (hb : b.span.Holds n c) ha => absurd hlt (ha.not_lt hb)

/-- Tokens are the parts of a text that are found when its comments are masked: their spans come in
order with room between them, the text of each is the text at its span, and they have the
characters that are no blanks and not masked, each in one token. -/
theorem tokens_index_text (folding : Folding) (t : Text) :
    (∀ token ∈ ofText folding t,
      token.span.start < token.span.stop ∧ token.span.Fits t ∧
        token.text = if folding.caseSensitive then token.span.text t
          else Text.lowercase (token.span.text t)) ∧
    (ofText folding t).Pairwise (fun a b => a.span.stop < b.span.start) ∧
    ∀ n c, Text.CharAt t n c →
      ((∃ token ∈ ofText folding t, token.span.Holds n c) ↔
        isBlank c = false ∧
          (folding.ignoreComments = true → Text.CharAt (Text.maskComments t) n c)) ∧
      ∀ a ∈ ofText folding t, ∀ b ∈ ofText folding t,
        a.span.Holds n c → b.span.Holds n c → a = b := by
  have hplaced := placed_wordsFrom 0 (working folding t)
  have hseparated : (ofText folding t).Pairwise fun a b => a.span.stop < b.span.start := by
    rw [ofText_eq]
    exact List.pairwise_map.2 hplaced.separated
  refine ⟨?parts, hseparated, fun n c hn => ⟨?covered, ?once⟩⟩
  case parts =>
    rw [ofText_eq]
    refine List.forall_mem_map.2 fun word hmem => ?_
    obtain ⟨hlt, hfits, htext⟩ := text_span_of_mem hmem
    exact ⟨hlt, hfits, by simp only [folded, htext]⟩
  case covered =>
    simp only [ofText_eq, List.mem_map, exists_exists_and_eq_and, ← charAt_working hn, folded]
    constructor
    · rintro ⟨word, hmem, hholds⟩
      exact charAt_of_holds hmem hn hholds
    · rintro ⟨hc, hworking⟩
      simpa using hplaced.exists_holds hworking hc
  case once => exact fun a ha b hb => eq_of_holds hseparated ha hb

/-- In `a /*é*/ b` a token has the last letter, at its offset in the text, and none has the one in
the comment. -/
theorem tokens_index_text_comment :
    (∃ token ∈ ofText { ignoreComments := true } "a /*é*/ b".toList, token.span.Holds 9 'b') ∧
      ¬ ∃ token ∈ ofText { ignoreComments := true } "a /*é*/ b".toList, token.span.Holds 4 'é' := by
  obtain ⟨-, -, hcovered⟩ := tokens_index_text { ignoreComments := true } "a /*é*/ b".toList
  have hlast : Text.CharAt "a /*é*/ b".toList 9 'b' := ⟨"a /*é*/ ".toList, [], by decide, by decide⟩
  have hinside : Text.CharAt "a /*é*/ b".toList 4 'é' :=
    ⟨"a /*".toList, "*/ b".toList, by decide, by decide⟩
  constructor
  · refine (hcovered 9 'b' hlast).1.2 ⟨by decide, fun _ => ?_⟩
    exact ⟨"a        ".toList, [], by decide, by decide⟩
  · rw [(hcovered 4 'é' hinside).1]
    rintro ⟨-, hkept⟩
    have hblank : Text.CharAt (Text.maskComments "a /*é*/ b".toList) 4 ' ' :=
      ⟨"a   ".toList, "    b".toList, by decide, by decide⟩
    exact absurd (hblank.unique (hkept rfl)) (by decide)

end Tokens

end Emend
