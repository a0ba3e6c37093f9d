import Emend.Proofs.Text.Canonical
import Emend.Proofs.Text.Endings
import Emend.Proofs.Text.Masking
/-!
# Other blanks at the starts of lines

Two texts may differ in the blanks at the starts of their lines and in nothing else (`Relaid`).  A
text that is indented in another way is such a text (`relaid_reindent`).

*Comments.*  Where a line starts, the next character is of ordinary text, of a string or of a block
comment, and no blank changes this.  So the same is blanked in both texts, and what is left
differs in the same way (`Relaid.maskFrom`).

*Canonical forms.*  The canonical form of a line starts with the first character that is no
blank, so the texts have the same form, whatever does not count in it (`Relaid.canonical_eq`).
-/

namespace Emend

namespace Text

/-! ## States at the starts of lines -/

namespace CommentState

/-- The states that the first character of a line may be in. -/
def startsLine : CommentState → Bool
  | .code | .string | .block => true
  | _ => false

theorem step_lineFeed (state : CommentState) (t u : Text) :
    state.step '\n' t = state.step '\n' u := by
  cases state <;> simp [step, afterCode]

theorem startsLine_of_lineFeed (state : CommentState) (t : Text) :
    (state.step '\n' t).1.startsLine = true := by
  cases state <;> simp [step, afterCode, startsLine]

/-- A blank at the start of a line changes no state. -/
theorem step_blank {state : CommentState} (hstate : state.startsLine = true) {c : Char}
    (hblank : isBlank c = true) (hfeed : c ≠ '\n') (t : Text) :
    ∃ comment, state.step c t = (state, comment) := by
  have hne : ∀ d, isBlank d = false → c ≠ d := by
    rintro d hd rfl
    rw [hblank] at hd
    cases hd
  have hquote := hne '"' (by decide)
  cases state with
  | code =>
      exact ⟨false, by simp [step, afterCode, hquote, hne '#' (by decide), hne '/' (by decide)]⟩
  | string => exact ⟨false, by simp [step, hquote, hfeed, hne '\\' (by decide)]⟩
  | block => exact ⟨true, by simp [step, hne '*' (by decide)]⟩
  | escape | line | blockOpen | blockClose | star => cases hstate

end CommentState

/-! ## Relaid texts -/

/-- The texts differ only in the blanks at the starts of lines.  The flag says whether they start
at the start of a line, too. -/
inductive Relaid : Bool → Text → Text → Prop
  /-- There is no more. -/
  | nil {start : Bool} : Relaid start [] []
  /-- The first text has a blank. -/
  | left {c : Char} {t u : Text} : isBlank c = true → c ≠ '\n' → Relaid true t u →
      Relaid true (c :: t) u
  /-- The second text has a blank. -/
  | right {c : Char} {t u : Text} : isBlank c = true → c ≠ '\n' → Relaid true t u →
      Relaid true t (c :: u)
  /-- Both have the same character. -/
  | keep {start : Bool} {t u : Text} (c : Char) : Relaid (c == '\n') t u →
      Relaid start (c :: t) (c :: u)

namespace Relaid

variable {start : Bool} {t u : Text}

theorem refl (start : Bool) (t : Text) : Relaid start t t := by
  induction t generalizing start with
  | nil => exact .nil
  | cons c t ih => exact .keep c (ih _)

theorem symm (h : Relaid start t u) : Relaid start u t := by
  induction h with
  | nil => exact .nil
  | left hblank hfeed _ ih => exact .right hblank hfeed ih
  | right hblank hfeed _ ih => exact .left hblank hfeed ih
  | keep c _ ih => exact .keep c ih

theorem blanks_left {blanks : Text} (hblank : allBlank blanks) (hfeed : '\n' ∉ blanks)
    (h : Relaid true t u) : Relaid true (blanks ++ t) u := by
  induction blanks with
  | nil => exact h
  | cons c blanks ih =>
      rw [allBlank, List.all_cons, Bool.and_eq_true] at hblank
      rw [List.mem_cons, not_or] at hfeed
      exact .left hblank.1 (Ne.symm hfeed.1) (ih hblank.2 hfeed.2)

theorem blanks_right {blanks : Text} (hblank : allBlank blanks) (hfeed : '\n' ∉ blanks)
    (h : Relaid true t u) : Relaid true t (blanks ++ u) :=
  (h.symm.blanks_left hblank hfeed).symm

/-- Both texts go on with the same part of a line. -/
theorem append_left {part : Text} (hfeed : '\n' ∉ part) (h : Relaid false t u) :
    Relaid false (part ++ t) (part ++ u) := by
  induction part with
  | nil => exact h
  | cons c part ih =>
      rw [List.mem_cons, not_or] at hfeed
      have hc : (c == '\n') = false := beq_eq_false_iff_ne.2 (Ne.symm hfeed.1)
      exact .keep c (by rw [hc]; exact ih hfeed.2)

/-- Inside a line the texts are the same at each place. -/
theorem mono (h : Relaid false t u) : Relaid start t u := by
  cases h with
  | nil => exact .nil
  | keep c h => exact .keep c h

theorem head?_eq (h : Relaid false t u) : t.head? = u.head? := by
  cases h with
  | nil => rfl
  | keep => rfl

/-! ## Comments -/

theorem closesBlock_eq (h : Relaid start t u) : closesBlock t = closesBlock u := by
  have hblankStar : ∀ c, isBlank c = true → (c == '*') = false := by
    intro c hc
    refine beq_eq_false_iff_ne.2 ?_
    rintro rfl
    exact absurd hc (by decide)
  induction h with
  | nil => rfl
  | left hblank _ _ ih => rw [closesBlock, hblankStar _ hblank, Bool.false_and, Bool.false_or, ih]
  | right hblank _ _ ih => rw [closesBlock, hblankStar _ hblank, Bool.false_and, Bool.false_or, ih]
  | keep c h ih =>
      rw [closesBlock, closesBlock, ih]
      by_cases hc : c = '\n'
      · subst hc
        rfl
      · rw [beq_eq_false_iff_ne.2 hc] at h
        rw [h.head?_eq]

/-- What the next character belongs to is the same in both texts. -/
theorem step_eq {c : Char} (h : Relaid (c == '\n') t u) (state : CommentState) :
    state.step c t = state.step c u := by
  by_cases hc : c = '\n'
  · subst hc
    exact state.step_lineFeed t u
  · rw [beq_eq_false_iff_ne.2 hc] at h
    have hcloses : closesBlock t.tail = closesBlock u.tail := by
      cases h with
      | nil => rfl
      | keep c h => exact h.closesBlock_eq
    unfold CommentState.step CommentState.afterCode
    rw [h.head?_eq, hcloses]

theorem not_mem_blankChar {c : Char} (hc : c ≠ '\n') : '\n' ∉ blankChar c := by
  unfold blankChar
  split
  · simpa using Ne.symm hc
  · exact fun hmem => absurd (List.eq_of_mem_replicate hmem) (by decide)

theorem mask_left {state : CommentState} (hstate : state.startsLine = true) {c : Char}
    (hblank : isBlank c = true) (hfeed : c ≠ '\n')
    (h : Relaid true (Text.maskFrom state t) u) : Relaid true (Text.maskFrom state (c :: t)) u := by
  obtain ⟨comment, hstep⟩ := CommentState.step_blank hstate hblank hfeed t
  cases comment with
  | false =>
      rw [maskFrom_keep hstep]
      exact .left hblank hfeed h
  | true =>
      rw [maskFrom_hide hstep]
      exact h.blanks_left (List.all_eq_true.2 fun _ => isBlank_of_blankChar)
        (not_mem_blankChar hfeed)

/-- What is left when the comments are blanked differs in the same way. -/
theorem maskFrom {state : CommentState} (hstate : start = true → state.startsLine = true)
    (h : Relaid start t u) : Relaid start (Text.maskFrom state t) (Text.maskFrom state u) := by
  induction h generalizing state with
  | nil => exact .nil
  | left hblank hfeed _ ih => exact mask_left (hstate rfl) hblank hfeed (ih hstate)
  | right hblank hfeed _ ih => exact (mask_left (hstate rfl) hblank hfeed (ih hstate).symm).symm
  | @keep start t u c h ih =>
      have hnext : (c == '\n') = true → (state.step c t).1.startsLine = true := by
        intro hc
        rw [beq_iff_eq] at hc
        subst hc
        exact state.startsLine_of_lineFeed t
      have hrest := ih hnext
      have hsame := h.step_eq state
      cases hstep : state.step c t with
      | mk next comment =>
      rw [hstep] at hsame hrest
      cases comment with
      | false =>
          rw [maskFrom_keep hstep, maskFrom_keep hsame.symm]
          exact .keep c hrest
      | true =>
          rw [maskFrom_hide hstep, maskFrom_hide hsame.symm]
          by_cases hc : c = '\n'
          · subst hc
            exact .keep '\n' hrest
          · rw [beq_eq_false_iff_ne.2 hc] at hrest
            exact (hrest.append_left (not_mem_blankChar hc)).mono

/-! ## Canonical forms -/

/-- The texts have the same lines but for the blanks that lead them, and inside a line the rest of
it is the same. -/
theorem lines_eq (h : Relaid start t u) : ∃ a b rest rest', lines t = a :: rest ∧
    lines u = b :: rest' ∧ trimStart a = trimStart b ∧ (start = false → a = b) ∧
      rest.map trimStart = rest'.map trimStart := by
  have htrim : ∀ {c : Char}, isBlank c = true → ∀ a, trimStart (c :: a) = trimStart a :=
    fun hc a => List.dropWhile_cons_of_pos hc
  have hcons : ∀ {c : Char} {t a : Text} {rest : List Text}, c ≠ '\n' → lines t = a :: rest →
      lines (c :: t) = (c :: a) :: rest := by
    intro c t a rest hc hlines
    rw [lines] at hlines
    rw [lines, splitOn, if_neg hc, hlines]
  induction h with
  | nil => exact ⟨[], [], [], [], rfl, rfl, rfl, fun _ => rfl, rfl⟩
  | left hblank hfeed _ ih =>
      obtain ⟨a, b, rest, rest', ht, hu, hlead, -, hrest⟩ := ih
      refine ⟨_, b, rest, rest', hcons hfeed ht, hu, (htrim hblank a).trans hlead, ?_, hrest⟩
      exact fun hstart => Bool.noConfusion hstart
  | right hblank hfeed _ ih =>
      obtain ⟨a, b, rest, rest', ht, hu, hlead, -, hrest⟩ := ih
      refine ⟨a, _, rest, rest', ht, hcons hfeed hu, hlead.trans (htrim hblank b).symm, ?_, hrest⟩
      exact fun hstart => Bool.noConfusion hstart
  | keep c _ ih =>
      obtain ⟨a, b, rest, rest', ht, hu, hlead, hsame, hrest⟩ := ih
      by_cases hc : c = '\n'
      · subst hc
        refine ⟨[], [], a :: rest, b :: rest', ?_, ?_, rfl, fun _ => rfl, ?_⟩
        · rw [← ht, lines, splitOn, if_pos rfl, lines]
        · rw [← hu, lines, splitOn, if_pos rfl, lines]
        · rw [List.map_cons, List.map_cons, hlead, hrest]
      · have hab := hsame (beq_eq_false_iff_ne.2 hc)
        exact ⟨_, _, rest, rest', hcons hc ht, hcons hc hu, by rw [hab], fun _ => by rw [hab],
          hrest⟩

theorem canonicalLine_trimStart (line : Text) : canonicalLine (trimStart line) =
    canonicalLine line := by
  have hatoms : atoms (trimStart line) = atoms line := by
    induction line with
    | nil => rfl
    | cons c line ih =>
        by_cases hc : isBlank c
        · have htrim : trimStart (c :: line) = trimStart line := List.dropWhile_cons_of_pos hc
          rw [htrim, ih]
          conv_rhs => rw [atoms, if_pos hc]
        · rw [trimStart_cons hc]
  rw [canonicalLine_eq, hatoms, ← canonicalLine_eq]

theorem canonicalLines_eq (h : Relaid start t u) :
    (lines t).map canonicalLine = (lines u).map canonicalLine := by
  have hform : canonicalLine = canonicalLine ∘ trimStart :=
    funext fun line => (canonicalLine_trimStart line).symm
  obtain ⟨a, b, rest, rest', ht, hu, hlead, -, hrest⟩ := h.lines_eq
  rw [hform, ← List.map_map, ← List.map_map, ht, hu, List.map_cons, List.map_cons, hlead, hrest]
  rfl

/-- Texts that differ only in the blanks at the starts of lines have the same canonical form. -/
theorem canonical_eq (h : Relaid true t u) (ht : '\r' ∉ t) (hu : '\r' ∉ u) (folding : Folding) :
    canonical folding t = canonical folding u := by
  have hlines : (lines (if folding.ignoreComments then maskComments t else t)).map canonicalLine =
      (lines (if folding.ignoreComments then maskComments u else u)).map canonicalLine := by
    split
    · exact (h.maskFrom fun _ => rfl).canonicalLines_eq
    · exact h.canonicalLines_eq
  simp only [canonical, LineEnding.normalize_of_not_mem ht, LineEnding.normalize_of_not_mem hu,
    hlines]

end Relaid

/-! ## Indentation -/

variable {indent : Text}

theorem relaid_reindentLine (hblank : allBlank indent) (hindent : '\n' ∉ indent) {line : Text}
    (hline : '\n' ∉ line) {t u : Text} (h : Relaid false t u) :
    Relaid true (line ++ t) (reindentLine indent line ++ u) := by
  unfold reindentLine
  split
  · exact (h.append_left hline).mono
  · have hrest : '\n' ∉ trimStart line := fun hmem => hline ((List.dropWhile_suffix _).mem hmem)
    have hsame : Relaid true (trimStart line ++ t) (indent ++ (trimStart line ++ u)) :=
      (h.append_left hrest).mono.blanks_right hblank hindent
    have hlead := hsame.blanks_left (allBlank_indentOf line) (not_mem_indentOf hline)
    rwa [← List.append_assoc, indentOf_append_trimStart, ← List.append_assoc] at hlead

theorem relaid_join (hblank : allBlank indent) (hindent : '\n' ∉ indent) {rows : List Text}
    (hrows : ∀ row ∈ rows, '\n' ∉ row) :
    Relaid true (join ['\n'] rows) (join ['\n'] (rows.map (reindentLine indent))) := by
  induction rows with
  | nil => exact .nil
  | cons row rows ih =>
      obtain ⟨hrow, hrest⟩ := List.forall_mem_cons.1 hrows
      by_cases hnil : rows = []
      · subst hnil
        have hone := relaid_reindentLine hblank hindent hrow (.refl false [])
        rwa [List.append_nil, List.append_nil] at hone
      · rw [List.map_cons, join_cons _ _ hnil, join_cons _ _ (by simpa using hnil),
          List.append_assoc, List.append_assoc]
        exact relaid_reindentLine hblank hindent hrow (.keep '\n' (ih hrest))

/-- A text that is indented in another way differs from what it was in the blanks at the starts of
its lines. -/
theorem relaid_reindent (hblank : allBlank indent) (hindent : '\n' ∉ indent) {t : Text}
    (ht : '\r' ∉ t) : Relaid true t (reindent indent .lf t) := by
  have hrows := relaid_join hblank hindent fun row => not_mem_of_mem_lines (t := t)
  rw [lines, join_splitOn, ← lines] at hrows
  rwa [reindent, LineEnding.normalize_of_not_mem ht]

end Text

end Emend
