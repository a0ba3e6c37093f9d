import Mathlib.Logic.Basic
import Emend.Proofs.Match.Checked
import Emend.Proofs.Match.Occurrences
import Emend.Proofs.Pattern.Marks
import Emend.Proofs.Text.LineSpans
/-!
# Exact matches

A match is exact if the content has the text of the match at its span (`Match.Exact`).
Each strategy cuts at places only and finds exact matches (`Checked.Agrees`), because the
spans that it works out fit: spans of lines, of occurrences and of matches of patterns.

A strategy takes the first or the best of some candidates, by what is made of each.  If
all of their spans fit, so does the span of the one that is taken (`agrees_first`,
`agrees_best`).
-/

namespace Emend

/-- The content has the text of a match at the span of the match. -/
def Match.Exact (content : Text) (m : Match) : Prop :=
  Text.slice? m.span.start m.span.stop content = some m.text

namespace Checked

variable {content : Text} {s : Span}

/-! ## Agreement -/

/-- A search that checks its cuts finds what the search finds, which is exact. -/
structure Agrees (content : Text) (checked : Except Span (Option Match)) (found : Option Match) :
    Prop where
  /-- Each cut is at a place. -/
  eq : checked = .ok found
  /-- The match is exact. -/
  exact : ∀ m, found = some m → m.Exact content

theorem agrees_none (content : Text) : Agrees content (.ok none) none :=
  ⟨rfl, by simp⟩

theorem ofSpan_ok (h : s.Fits content) : ofSpan content s = .ok (Match.ofSpan content s) := by
  rw [ofSpan, slice_ok h]
  rfl

theorem exact_ofSpan (h : s.Fits content) : (Match.ofSpan content s).Exact content := h.slice?

/-- The match at a span that is made of what has been found. -/
theorem agrees_mapM {α : Type} (span : α → Span) (found : Option α)
    (h : ∀ a, found = some a → (span a).Fits content) :
    Agrees content (found.mapM fun a => ofSpan content (span a))
      (found.map fun a => Match.ofSpan content (span a)) := by
  cases found with
  | none => exact agrees_none content
  | some a =>
      have hfit := h a rfl
      refine ⟨?_, fun m hm => ?_⟩
      · rw [Option.mapM_some, ofSpan_ok hfit]
        rfl
      · cases hm
        exact exact_ofSpan hfit

theorem mapM_ok {α β : Type} {f : α → Except Span β} {g : α → β} {l : List α}
    (h : ∀ a ∈ l, f a = .ok (g a)) : l.mapM f = .ok (l.map g) := by
  induction l with
  | nil => rfl
  | cons a l ih =>
      obtain ⟨ha, hl⟩ := List.forall_mem_cons.1 h
      rw [List.mapM_cons, ha, ih hl]
      rfl

theorem findM?_ok {α : Type} {f : α → Except Span Bool} {p : α → Bool} {l : List α}
    (h : ∀ a ∈ l, f a = .ok (p a)) : l.findM? f = .ok (l.find? p) := by
  induction l with
  | nil => rfl
  | cons a l ih =>
      obtain ⟨ha, hl⟩ := List.forall_mem_cons.1 h
      rw [List.findM?, ha, List.find?_cons]
      cases p a with
      | true => rfl
      | false => exact ih hl

theorem findSomeM?_ok {α β : Type} {f : α → Except Span (Option β)} {g : α → Option β}
    {l : List α} (h : ∀ a ∈ l, f a = .ok (g a)) : l.findSomeM? f = .ok (l.findSome? g) := by
  induction l with
  | nil => rfl
  | cons a l ih =>
      obtain ⟨ha, hl⟩ := List.forall_mem_cons.1 h
      rw [List.findSomeM?, ha, List.findSome?_cons]
      cases g a with
      | some b => rfl
      | none => exact ih hl

end Checked

/-! ## The best of some candidates -/

theorem bestScored_cons {α : Type} (accept : Float → Bool) (score : α → Float)
    (top : Option (Float × α)) (a : α) (l : List α) :
    ∃ next, (next = some (score a, a) ∨ next = top) ∧
      bestScored accept score top (a :: l) = bestScored accept score next l :=
  ⟨_, ite_eq_or_eq _ _ _, rfl⟩

/-- What is best is one of the candidates. -/
theorem mem_of_bestScored {α : Type} {accept : Float → Bool} {score : α → Float}
    {top : Option (Float × α)} {l : List α} {best : Float × α}
    (h : bestScored accept score top l = some best) : top = some best ∨ best.2 ∈ l := by
  induction l generalizing top with
  | nil => exact .inl h
  | cons a l ih =>
      obtain ⟨next, hnext, heq⟩ := bestScored_cons accept score top a l
      rw [heq] at h
      rcases ih h with rfl | hmem
      · rcases hnext with hnext | hnext
        · cases hnext
          exact .inr (by simp)
        · exact .inl hnext.symm
      · exact .inr (List.mem_cons_of_mem a hmem)

/-- Candidates may be scored by what is made of them. -/
theorem bestScored_map {α β : Type} (k : α → β) (accept : Float → Bool) (score : β → Float)
    (top : Option (Float × α)) (l : List α) :
    bestScored accept score (top.map fun p => (p.1, k p.2)) (l.map k) =
      (bestScored accept (fun a => score (k a)) top l).map fun p => (p.1, k p.2) := by
  induction l generalizing top with
  | nil => rfl
  | cons a l ih =>
      rw [List.map_cons]
      unfold bestScored
      rw [← ih]
      cases top with
      | none => simp only [Option.map_none]; split <;> rfl
      | some p => simp only [Option.map_some]; split <;> rfl

namespace Checked

section Candidates

variable {content : Text} {α β : Type} {candidates : List α} (span : α → Span)
  (h : ∀ a ∈ candidates, (span a).Fits content) {make : α → Except Span β} {made : α → β}
  (hmake : ∀ a ∈ candidates, make a = .ok (made a))

include h hmake

/-- The match at the span of the first candidate that is accepted for what is made of it. -/
theorem agrees_first (accept : β → Bool) :
    Agrees content
      (do
        let found ← candidates.findM? fun a => do
          return accept (← make a)
        found.mapM fun a => ofSpan content (span a))
      ((candidates.find? fun a => accept (made a)).map fun a =>
        Match.ofSpan content (span a)) := by
  have haccept : ∀ a ∈ candidates, (do return accept (← make a)) =
      Except.ok (accept (made a)) := by
    intro a ha
    rw [hmake a ha]
    rfl
  rw [findM?_ok haccept]
  exact agrees_mapM span _ fun a ha => h a (List.mem_of_find?_eq_some ha)

/-- The match at the span of the best candidate, scored by what is made of it. -/
theorem agrees_best (accept : Float → Bool) (score : β → Float) :
    Agrees content
      (do
        let parts ← candidates.mapM fun a => do
          return (a, ← make a)
        (bestScored accept (fun p : α × β => score p.2) none parts).mapM fun p =>
          ofSpan content (span p.2.1))
      ((bestScored accept (fun a => score (made a)) none candidates).map fun p =>
        Match.ofSpan content (span p.2)) := by
  have hparts : ∀ a ∈ candidates, (do return (a, ← make a)) = Except.ok (a, made a) := by
    intro a ha
    rw [hmake a ha]
    rfl
  have hbest := bestScored_map (fun a => (a, made a)) accept (fun p : α × β => score p.2) none
    candidates
  rw [Option.map_none] at hbest
  rw [mapM_ok hparts]
  dsimp only [bind, Except.bind]
  rw [hbest]
  cases hfound : bestScored accept (fun a => score (made a)) none candidates with
  | none => exact agrees_none content
  | some best =>
      refine agrees_mapM (fun p : Float × α => span p.2) (some best) fun p hp => ?_
      cases hp
      rcases mem_of_bestScored hfound with htop | hmem
      · cases htop
      · exact h _ hmem

end Candidates

variable (content pattern : Text) (options : MatchOptions)

/-! ## Lines -/

theorem candidates_fit : ∀ s ∈ Lines.candidates content pattern, s.Fits content :=
  (Text.lineSpans_rows content).windows _

theorem canonical_ok (folding : Folding) (t : Text) :
    canonical folding t = .ok (Text.canonical folding t) := by
  unfold canonical Text.canonical
  cases folding.ignoreComments with
  | false => rfl
  | true =>
      simp only [if_true, maskComments_eq, bind, Except.bind]
      rfl

theorem formAt_ok {folding : Folding} (h : s.Fits content) :
    formAt folding content s = .ok (Text.canonical folding (s.text content)) := by
  rw [formAt, slice_ok h]
  exact canonical_ok folding _

theorem findLines_agrees :
    Agrees content (findLines content pattern options) (Lines.find content pattern options) := by
  have hfit := candidates_fit content pattern
  unfold findLines Lines.find
  simp only [canonical_ok, bind, Except.bind]
  split
  · exact agrees_none content
  · exact agrees_first id hfit (fun s hs => formAt_ok content (hfit s hs)) fun form =>
      form == Text.canonical options.folding pattern

theorem findSimilar_agrees : Agrees content (findSimilar content pattern options)
    (Lines.findSimilar content pattern options) := by
  have hfit := candidates_fit content pattern
  unfold findSimilar Lines.findSimilar
  simp only [canonical_ok, bind, Except.bind]
  split
  · exact findLines_agrees content pattern options
  · split
    · exact agrees_none content
    · exact agrees_best id hfit (fun s hs => formAt_ok content (hfit s hs))
        (fun s => Distance.meets s options.threshold) fun form =>
          Distance.similarity (Text.canonical options.folding pattern) form options.threshold

/-! ## Patterns, texts and numbers -/

theorem findPattern_agrees (caseSensitive : Bool) :
    Agrees content (findPattern content pattern caseSensitive)
      (Literal.findPattern content pattern caseSensitive) := by
  unfold findPattern Literal.findPattern
  cases Pattern.ofText caseSensitive pattern with
  | error e => exact agrees_none content
  | ok node =>
      exact agrees_mapM Pattern.Found.span _ fun found hfound =>
        Pattern.Found.fits (Pattern.find_sound hfound)

theorem firstAgreeing?_fits {same : Char → Char → Bool} {needle : Text} {s : Span}
    (h : Literal.firstAgreeing? same needle 0 content = some s) : s.Fits content := by
  obtain ⟨before, part, hfirst, rfl⟩ :=
    Literal.occursFirst_of_firstAgreeing? (fun _ _ => Iff.rfl) h
  obtain ⟨after, hcontent⟩ := hfirst.cut
  rw [Nat.zero_add]
  exact Span.fits_iff.2 ⟨before, part, after, hcontent.symm, rfl⟩

theorem findText_agrees (caseSensitive : Bool) :
    Agrees content (findText content pattern caseSensitive)
      (Literal.findText content pattern caseSensitive) := by
  unfold findText Literal.findText
  split
  · exact agrees_none content
  · exact agrees_mapM id _ fun s hs => firstAgreeing?_fits content hs

theorem findNumbered_agrees :
    Agrees content (findNumbered content pattern) (Literal.findLines content pattern) := by
  unfold findNumbered Literal.findLines
  cases Literal.parseLineRange? pattern with
  | none => exact agrees_none content
  | some range =>
  obtain ⟨first, last⟩ := range
  simp only [Option.bind_eq_bind, Option.bind_some]
  split
  · next hrange =>
    cases ha : (Text.lineSpans content)[first - 1]? with
    | none => exact agrees_none content
    | some a =>
    cases hb : (Text.lineSpans content)[last - 1]? with
    | none => exact agrees_none content
    | some b =>
        have hfit := (Text.lineSpans_rows content).join (Nat.sub_le_sub_right hrange.2 1) ha hb
        exact agrees_mapM id (some ⟨a.start, b.stop⟩) fun s hs => by
          cases hs
          exact hfit
  · exact agrees_none content

end Checked

end Emend
