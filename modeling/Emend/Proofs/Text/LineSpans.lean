import Emend.Proofs.Text.Places
/-!
# Spans of lines

The spans of the lines of a content fit it and come in order (`lineSpans_rows`), so
the span from one of them to a later one fits it as well (`Rows.join`).  A line does not
start right after a carriage return, as there is a line feed before it, or nothing
(`lineSpans_start`).
-/

namespace Emend

namespace Text

/-! ## Cuts by content -/

theorem afterLead?_iff {lead t rest : Text} : afterLead? lead t = some rest ↔ t = lead ++ rest := by
  induction lead generalizing t with
  | nil => simp [afterLead?]
  | cons p ps ih =>
      cases t with
      | nil => simp [afterLead?]
      | cons c t =>
          by_cases hc : c = p
          · simp [afterLead?, hc, ih]
          · simp [afterLead?, hc]

theorem beforeTail?_eq_some {tail t front : Text} (h : beforeTail? tail t = some front) :
    t = front ++ tail := by
  unfold beforeTail? at h
  obtain ⟨rest, hrest, rfl⟩ := Option.map_eq_some_iff.1 h
  have heq := congrArg List.reverse (afterLead?_iff.1 hrest)
  simpa using heq

theorem breakOn?_eq_some {needle t before after : Text}
    (h : breakOn? needle t = some (before, after)) : t = before ++ needle ++ after := by
  induction t generalizing before with
  | nil =>
      unfold breakOn? at h
      obtain ⟨rest, hrest, heq⟩ := Option.map_eq_some_iff.1 h
      cases heq
      simpa using afterLead?_iff.1 hrest
  | cons c t ih =>
      unfold breakOn? at h
      cases hlead : afterLead? needle (c :: t) with
      | some rest =>
          simp only [hlead, Option.some.injEq, Prod.mk.injEq] at h
          obtain ⟨rfl, rfl⟩ := h
          exact afterLead?_iff.1 hlead
      | none =>
          simp only [hlead] at h
          obtain ⟨⟨front, rest⟩, hbreak, heq⟩ := Option.map_eq_some_iff.1 h
          cases heq
          simp [ih hbreak]

theorem breakOn?_append_ne_none (before needle after : Text) :
    breakOn? needle (before ++ needle ++ after) ≠ none := by
  induction before with
  | nil =>
      have hlead : afterLead? needle (needle ++ after) = some after := afterLead?_iff.2 rfl
      rw [List.nil_append]
      cases ht : needle ++ after with
      | nil => simp [breakOn?, ← ht, hlead]
      | cons c t => simp [breakOn?, ← ht, hlead]
  | cons c before ih =>
      rw [List.cons_append, List.cons_append, breakOn?]
      cases afterLead? needle (c :: (before ++ needle ++ after)) with
      | some rest => exact Option.some_ne_none _
      | none => simpa using ih

/-- A text is not cut if what is looked for does not occur in it. -/
theorem breakOn?_eq_none_iff {needle t : Text} : breakOn? needle t = none ↔ ¬ needle <:+: t := by
  constructor
  · rintro h ⟨before, after, rfl⟩
    exact breakOn?_append_ne_none before needle after h
  · intro h
    cases hbreak : breakOn? needle t with
    | none => rfl
    | some cut => exact absurd ⟨cut.1, cut.2, (breakOn?_eq_some hbreak).symm⟩ h

/-- A text is cut at the first occurrence of a character, if there is one. -/
theorem breakOn?_singleton (c : Char) (t : Text) :
    (c ∉ t ∧ breakOn? [c] t = none) ∨
      ∃ before after, t = before ++ c :: after ∧ c ∉ before ∧
        breakOn? [c] t = some (before, after) := by
  induction t with
  | nil => exact .inl ⟨by simp, rfl⟩
  | cons d t ih =>
      by_cases hd : d = c
      · exact .inr ⟨[], t, by simp [hd], by simp, by simp [breakOn?, afterLead?, hd]⟩
      · have hcd : c ≠ d := Ne.symm hd
        rcases ih with ⟨hnone, hbreak⟩ | ⟨before, after, rfl, hbefore, hbreak⟩
        · exact .inl ⟨by simp [hcd, hnone], by simp [breakOn?, afterLead?, hd, hbreak]⟩
        · exact .inr ⟨d :: before, after, rfl, by simp [hcd, hbefore],
            by simp [breakOn?, afterLead?, hd, hbreak]⟩

theorem breakOn?_append {c : Char} {a : Text} (h : c ∉ a) (b : Text) :
    breakOn? [c] (a ++ c :: b) = some (a, b) := by
  induction a with
  | nil => simp [breakOn?, afterLead?]
  | cons d a ih =>
      rw [List.mem_cons, not_or] at h
      simp [breakOn?, afterLead?, Ne.symm h.1, ih h.2]

theorem splitOn_ne_nil (sep : Char) (t : Text) : splitOn sep t ≠ [] := by
  cases t with
  | nil => simp [splitOn]
  | cons c t =>
      rw [splitOn]
      split
      · simp
      · split <;> simp

theorem join_cons (sep piece : Text) {pieces : List Text} (h : pieces ≠ []) :
    join sep (piece :: pieces) = piece ++ sep ++ join sep pieces := by
  cases pieces with
  | nil => exact absurd rfl h
  | cons => rfl

/-- The pieces of a text put together again are the text. -/
theorem join_splitOn (sep : Char) (t : Text) : join [sep] (splitOn sep t) = t := by
  induction t with
  | nil => rfl
  | cons c t ih =>
      have hne := splitOn_ne_nil sep t
      rw [splitOn]
      split
      · next hc => rw [join_cons _ _ hne, ih, hc]; rfl
      · cases hs : splitOn sep t with
        | nil => exact absurd hs hne
        | cons piece pieces =>
            rw [hs] at ih
            cases pieces with
            | nil => simpa [join] using ih
            | cons next pieces => simpa [join] using ih

theorem append_of_dropReturn (line : Text) : ∃ tail, line = dropReturn line ++ tail := by
  unfold dropReturn
  cases h : beforeTail? ['\r'] line with
  | none => exact ⟨[], by simp⟩
  | some front => exact ⟨['\r'], beforeTail?_eq_some h⟩

/-! ## Rows of spans -/

/-- Spans of a content that start one after the other. -/
structure Rows (content : Text) (spans : List Span) : Prop where
  /-- Each span fits the content. -/
  fits : ∀ s ∈ spans, s.Fits content
  /-- No span starts before an earlier one. -/
  ordered : spans.Pairwise fun a b => a.start ≤ b.start

namespace Rows

variable {content : Text} {span : Span} {spans : List Span}

theorem tail (h : Rows content (span :: spans)) : Rows content spans :=
  ⟨fun s hs => h.fits s (List.mem_cons_of_mem _ hs), (List.pairwise_cons.1 h.ordered).2⟩

/-- From each span on to a later one there is a span. -/
theorem join (h : Rows content spans) {i j : Nat} (hij : i ≤ j) {first last : Span}
    (hfirst : spans[i]? = some first) (hlast : spans[j]? = some last) :
    Span.Fits ⟨first.start, last.stop⟩ content := by
  obtain ⟨hi, rfl⟩ := List.getElem?_eq_some_iff.1 hfirst
  obtain ⟨hj, rfl⟩ := List.getElem?_eq_some_iff.1 hlast
  have hfit := h.fits spans[j] (List.getElem_mem hj)
  refine ⟨?_, (h.fits spans[i] (List.getElem_mem hi)).start, hfit.stop⟩
  rcases Nat.lt_or_eq_of_le hij with hlt | rfl
  · have hle := List.pairwise_iff_getElem.1 h.ordered i j hi hj hlt
    exact Nat.le_trans hle hfit.ordered
  · exact hfit.ordered

theorem sublist (h : Rows content spans) {some : List Span} (hsome : some.Sublist spans) :
    Rows content some :=
  ⟨fun s hs => h.fits s (hsome.subset hs), h.ordered.sublist hsome⟩

theorem to_last (h : Rows content (span :: spans)) :
    Span.Fits ⟨span.start, (spans.getLastD span).stop⟩ content := by
  refine h.join (Nat.zero_le spans.length) rfl ?_
  rcases List.eq_nil_or_concat spans with rfl | ⟨front, last, rfl⟩
  · rfl
  · simp

/-- Each run of spans is a span. -/
theorem windows (h : Rows content spans) (n : Nat) :
    ∀ s ∈ Text.windows n spans, s.Fits content := by
  induction spans with
  | nil => simp [Text.windows]
  | cons first rest ih =>
      intro s hs
      unfold Text.windows at hs
      split at hs
      · cases hs
      · split at hs
        · next last hlast =>
          rcases List.mem_cons.1 hs with rfl | hs
          · exact h.join (Nat.zero_le (n - 1)) rfl hlast
          · exact ih h.tail s hs
        · cases hs

end Rows

/-! ## Spans of lines -/

/-- An offset is a place that does not come right after a carriage return. -/
def IsLineStart (content : Text) (n : Nat) : Prop :=
  ∃ before after, content = before ++ after ∧ size before = n ∧ before.getLast? ≠ some '\r'

theorem IsLineStart.getLast?_ne {before after : Text}
    (h : IsLineStart (before ++ after) (size before)) : before.getLast? ≠ some '\r' := by
  obtain ⟨front, back, heq, hsize, hlast⟩ := h
  obtain ⟨c, rfl, -⟩ := append_eq_of_size_le heq.symm (Nat.le_of_eq hsize)
  rw [size_append] at hsize
  obtain rfl : c = [] := eq_nil_of_size (by omega)
  rwa [List.append_nil]

/-- The first line comes after a text, and the next ones after that text with the line and its line
feed. -/
theorem spansFrom_cons (before line : Text) (rest : List Text) :
    spansFrom (size before) (line :: rest) =
      ⟨size before, size before + size (dropReturn line)⟩ ::
        spansFrom (size (before ++ line ++ ['\n'])) rest := by
  rw [spansFrom, size_append, size_append]
  rfl

theorem append_join_cons (before line : Text) {rest : List Text} (h : rest ≠ []) :
    before ++ line ++ ['\n'] ++ join ['\n'] rest = before ++ join ['\n'] (line :: rest) := by
  rw [join_cons _ _ h]
  simp only [List.append_assoc]

/-- The spans of lines that come after a text which does not end with a carriage return. -/
theorem spansFrom_rows (lines : List Text) (before : Text)
    (hbefore : before.getLast? ≠ some '\r') :
    Rows (before ++ join ['\n'] lines) (spansFrom (size before) lines) ∧
      ∀ s ∈ spansFrom (size before) lines,
        size before ≤ s.start ∧ IsLineStart (before ++ join ['\n'] lines) s.start := by
  induction lines generalizing before with
  | nil => exact ⟨⟨by simp [spansFrom], by simp [spansFrom]⟩, by simp [spansFrom]⟩
  | cons line rest ih =>
      obtain ⟨tail, htail⟩ := append_of_dropReturn line
      have hfirst : ∀ more, Span.Fits ⟨size before, size before + size (dropReturn line)⟩
          (before ++ (line ++ more)) := by
        intro more
        refine Span.fits_iff.2 ⟨before, dropReturn line, tail ++ more, ?_, rfl⟩
        have hline : line ++ more = dropReturn line ++ (tail ++ more) := by
          rw [← List.append_assoc, ← htail]
        rw [hline, List.append_assoc]
      rw [spansFrom_cons]
      by_cases hrest : rest = []
      · subst hrest
        have hfit := hfirst []
        rw [List.append_nil] at hfit
        refine ⟨⟨by simpa [spansFrom, join] using hfit, by simp [spansFrom]⟩, ?_⟩
        intro s hs
        obtain rfl : s = _ := by simpa [spansFrom] using hs
        exact ⟨Nat.le_refl _, before, _, rfl, rfl, hbefore⟩
      · -- What comes after the line feed is after a text of its own.
        have hnext := ih (before ++ line ++ ['\n']) (by simp)
        rw [append_join_cons _ _ hrest] at hnext
        obtain ⟨hrows, hstarts⟩ := hnext
        have hfit := hfirst (['\n'] ++ join ['\n'] rest)
        rw [← List.append_assoc line, ← join_cons _ _ hrest] at hfit
        have hle : ∀ s ∈ spansFrom (size (before ++ line ++ ['\n'])) rest,
            size before ≤ s.start := fun s hs => by
          have hstart := (hstarts s hs).1
          rw [size_append, size_append] at hstart
          omega
        refine ⟨⟨List.forall_mem_cons.2 ⟨hfit, hrows.fits⟩,
          List.pairwise_cons.2 ⟨hle, hrows.ordered⟩⟩, ?_⟩
        refine List.forall_mem_cons.2 ⟨?_, fun s hs => ⟨hle s hs, (hstarts s hs).2⟩⟩
        exact ⟨Nat.le_refl _, before, _, rfl, rfl, hbefore⟩

theorem lineSpans_rows (content : Text) : Rows content (lineSpans content) := by
  have hrows := (spansFrom_rows (lines content) [] (by simp)).1
  rwa [List.nil_append, lines, join_splitOn] at hrows

theorem lineSpans_start (content : Text) :
    ∀ s ∈ lineSpans content, IsLineStart content s.start := by
  intro s hs
  have hstart := ((spansFrom_rows (lines content) [] (by simp)).2 s hs).2
  rwa [List.nil_append, lines, join_splitOn] at hstart

end Text

end Emend
