import Emend.Proofs.Distance.Perfect
import Emend.Proofs.Match.Tokens
/-!
# The earliest best candidate

A search that scores its candidates goes through them once and keeps the best so far.  What it
keeps is the first of greatest score among those that reach the threshold (`Best.step`,
`best_bestScored`).  As no score is above one, a search may end with the first perfect score
(`bestUntilPerfect_eq`).

The candidates are given by indices: runs of lines by their first line, runs of tokens by their
first token and then by their number.  The lists that are searched have the candidates in the
order of these indices (`Text.windows_eq`, `Tokens.windows_eq`), so what is found is the earliest
of the best ones (`EarliestBest`).
-/

namespace Emend

open Distance (meets)

/-! ## The best so far -/

section Best

variable {α : Type} {accept : Float → Bool} {score : α → Float}

/-- What is best of some candidates: the first of greatest score among those that are accepted, or
none if none is. -/
inductive Best (accept : Float → Bool) (score : α → Float) :
    List α → Option (Float × α) → Prop where
  /-- No candidate is accepted. -/
  | nothing {l : List α} (rejected : ∀ a ∈ l, accept (score a) = false) : Best accept score l none
  /-- Those before it have lower scores, and those after it have none that is higher. -/
  | leads {before after : List α} {a : α} (accepted : accept (score a) = true)
      (earlier : ∀ b ∈ before, accept (score b) = true → score b < score a)
      (later : ∀ b ∈ after, accept (score b) = true → score b ≤ score a) :
    Best accept score (before ++ a :: after) (some (score a, a))

/-- One more candidate changes nothing unless it is accepted with a higher score. -/
theorem Best.stay {l : List α} {top : Float × α} (h : Best accept score l (some top)) {a : α}
    (hle : accept (score a) = true → score a ≤ top.1) :
    Best accept score (l ++ [a]) (some top) := by
  cases h with
  | leads accepted earlier later =>
      rw [List.append_assoc, List.cons_append]
      refine .leads accepted earlier fun b hb hacc => ?_
      rcases List.mem_append.1 hb with hb | hb
      · exact later b hb hacc
      · rw [List.mem_singleton.1 hb] at hacc ⊢
        exact hle hacc

variable (hnumber : ∀ s, accept s = true → Score.Number s)

include hnumber

theorem Best.le {l : List α} {top : Float × α} (h : Best accept score l (some top)) {b : α}
    (hb : b ∈ l) (hacc : accept (score b) = true) : score b ≤ top.1 := by
  cases h with
  | leads accepted earlier later =>
      rcases List.mem_append.1 hb with hb | hb
      · exact Score.le_of_lt (earlier b hb hacc)
      · rcases List.mem_cons.1 hb with rfl | hb
        · exact Score.le_refl (hnumber _ accepted)
        · exact later b hb hacc

/-- With one more candidate, what is kept is still the best. -/
theorem Best.step {l : List α} {top : Option (Float × α)} (h : Best accept score l top) (a : α) :
    Best accept score (l ++ [a]) (bestScored accept score top [a]) := by
  cases h with
  | nothing rejected =>
      cases ha : accept (score a) with
      | false =>
          have hkeep : bestScored accept score none [a] = none := by simp [bestScored, ha]
          rw [hkeep]
          exact .nothing (List.forall_mem_append.2 ⟨rejected, List.forall_mem_singleton.2 ha⟩)
      | true =>
          have htake : bestScored accept score none [a] = some (score a, a) := by
            simp [bestScored, ha]
          rw [htake]
          refine .leads ha (fun b hb hacc => ?_) (by simp)
          rw [rejected b hb] at hacc
          cases hacc
  | @leads before after top accepted earlier later =>
      have hbest : Best accept score (before ++ top :: after) (some (score top, top)) :=
        .leads accepted earlier later
      by_cases hbetter : accept (score a) = true ∧ score top < score a
      · obtain ⟨ha, hlt⟩ := hbetter
        have htake : bestScored accept score (some (score top, top)) [a] =
            some (score a, a) := by
          simp [bestScored, ha, hlt]
        rw [htake]
        refine .leads ha (fun b hb hacc => ?_) (by simp)
        exact Score.lt_of_le_of_lt (hbest.le hnumber hb hacc) hlt
      · have hkeep : bestScored accept score (some (score top, top)) [a] =
            some (score top, top) := by
          simpa [bestScored] using fun ha hlt => absurd ⟨ha, hlt⟩ hbetter
        rw [hkeep]
        refine hbest.stay fun ha => ?_
        exact (Score.not_lt (hnumber _ accepted) (hnumber _ ha)).1 fun hlt => hbetter ⟨ha, hlt⟩

/-- A search finds the best of its candidates. -/
theorem best_bestScored (l : List α) : Best accept score l (bestScored accept score none l) := by
  have hrun : ∀ (seen : List α) (top : Option (Float × α)), Best accept score seen top →
      Best accept score (seen ++ l) (bestScored accept score top l) := by
    induction l with
    | nil =>
        intro seen top h
        rwa [List.append_nil]
    | cons a l ih =>
        intro seen top h
        have hnext := ih (seen ++ [a]) _ (h.step hnumber a)
        rwa [List.append_assoc, List.singleton_append] at hnext
  exact hrun [] none (.nothing (by simp))

end Best

/-! ## Stopping early -/

section Perfect

variable {α : Type} (accept : Float → Bool) (score : α → Float)

/-- The candidate that `bestScored` takes, by a search that ends with the first perfect score. -/
def bestUntilPerfect (top : Option (Float × α)) : List α → Option (Float × α)
  | [] => top
  | a :: rest =>
    let s := score a
    let better := match top with
      | none => true
      | some (best, _) => s > best
    if accept s && better then
      if s ≥ 1.0 then some (s, a) else bestUntilPerfect (some (s, a)) rest
    else bestUntilPerfect top rest

theorem bestScored_of_perfect {best : Float} (hbest : best ≥ 1.0) (a : α) {l : List α}
    (hle : ∀ b ∈ l, ¬ 1.0 < score b) :
    bestScored accept score (some (best, a)) l = some (best, a) := by
  induction l with
  | nil => rfl
  | cons b l ih =>
      obtain ⟨hb, hl⟩ := List.forall_mem_cons.1 hle
      have hno : ¬ score b > best := fun hlt => hb (Score.lt_of_le_of_lt hbest hlt)
      simpa [bestScored, hno] using ih hl

/-- As no score is above one, nothing is missed after a perfect one. -/
theorem bestUntilPerfect_eq {l : List α} (hle : ∀ b ∈ l, ¬ 1.0 < score b)
    (top : Option (Float × α)) :
    bestUntilPerfect accept score top l = bestScored accept score top l := by
  induction l generalizing top with
  | nil => rfl
  | cons a l ih =>
      obtain ⟨-, hl⟩ := List.forall_mem_cons.1 hle
      have htake : (if score a ≥ 1.0 then some (score a, a)
          else bestScored accept score (some (score a, a)) l) =
          bestScored accept score (some (score a, a)) l := by
        split
        · next hperfect => exact (bestScored_of_perfect accept score hperfect a hl).symm
        · rfl
      cases top <;> simp only [bestUntilPerfect, bestScored, ih hl, htake] <;> split <;> rfl

end Perfect

/-! ## Candidates in an order -/

section Earliest

variable {ι γ : Type} [LinearOrder ι] {at? : ι → Option γ} {score : γ → Float} {threshold : Float}

/-- A candidate that reaches the threshold has the greatest score of all that do, and is the first
one that has it. -/
structure EarliestBest (at? : ι → Option γ) (score : γ → Float) (threshold : Float) (i : ι)
    (c : γ) : Prop where
  /-- It is a candidate. -/
  candidate : at? i = some c
  /-- It reaches the threshold. -/
  meets : meets (score c) threshold = true
  /-- No other one that does has a greater score. -/
  greatest : ∀ j d, at? j = some d → Distance.meets (score d) threshold = true → score d ≤ score c
  /-- Those before it that do have lower scores. -/
  earliest : ∀ j d, j < i → at? j = some d → Distance.meets (score d) threshold = true →
    score d < score c

theorem EarliestBest.unique {i j : ι} {c d : γ} (hi : EarliestBest at? score threshold i c)
    (hj : EarliestBest at? score threshold j d) : c = d := by
  rcases lt_trichotomy i j with hlt | rfl | hlt
  · exact absurd (hi.greatest j d hj.candidate hj.meets)
      (Score.not_le_of_lt (hj.earliest i c hlt hi.candidate hi.meets))
  · exact Option.some_inj.1 (hi.candidate.symm.trans hj.candidate)
  · exact absurd (hj.greatest i c hi.candidate hi.meets)
      (Score.not_le_of_lt (hi.earliest j d hlt hj.candidate hj.meets))

/-- What a search by scores is to find: nothing if no candidate reaches the threshold, and the
place of the earliest best one otherwise. -/
structure FindsEarliestBest (at? : ι → Option γ) (score : γ → Float) (threshold : Float)
    (place : γ → Match) (found : Option Match) : Prop where
  /-- Nothing is found if no candidate reaches the threshold, and only then. -/
  none_iff : found = none ↔ ∀ i c, at? i = some c → meets (score c) threshold = false
  /-- A match is found if it is at the place of the earliest best candidate, and only then. -/
  some_iff : ∀ m, found = some m ↔ ∃ i c, EarliestBest at? score threshold i c ∧ m = place c

/-- Candidates before one of the list have lower indices, and those after it have greater ones. -/
theorem exists_index {indices : List ι} (hsorted : indices.Pairwise (· < ·))
    (hall : ∀ i c, at? i = some c → i ∈ indices) {before after : List γ} {a : γ}
    (hl : indices.filterMap at? = before ++ a :: after) :
    ∃ i, at? i = some a ∧ ∀ j d, at? j = some d →
      d ∈ before ∧ j < i ∨ d = a ∧ j = i ∨ d ∈ after ∧ i < j := by
  obtain ⟨front, back, rfl, rfl, hback⟩ := List.filterMap_eq_append_iff.1 hl
  obtain ⟨skipped, i, rest, rfl, hskipped, hi, rfl⟩ := List.filterMap_eq_cons_iff.1 hback
  obtain ⟨-, hrest, hfront⟩ := List.pairwise_append.1 hsorted
  have hrest := (List.pairwise_append.1 hrest).2.1
  refine ⟨i, hi, fun j d hd => ?_⟩
  rcases List.mem_append.1 (hall j d hd) with hj | hj
  · exact .inl ⟨List.mem_filterMap.2 ⟨j, hj, hd⟩, hfront j hj i (by simp)⟩
  · rcases List.mem_append.1 hj with hj | hj
    · rw [hskipped j hj] at hd
      cases hd
    · rcases List.mem_cons.1 hj with rfl | hj
      · exact .inr (.inl ⟨Option.some_inj.1 (hd.symm.trans hi), rfl⟩)
      · exact .inr (.inr ⟨List.mem_filterMap.2 ⟨j, hj, hd⟩, (List.pairwise_cons.1 hrest).1 j hj⟩)

/-- A search through all candidates in the order of their indices finds the earliest best one. -/
theorem findsEarliestBest {indices : List ι} (hsorted : indices.Pairwise (· < ·))
    (hall : ∀ i c, at? i = some c → i ∈ indices) (place : γ → Match) :
    FindsEarliestBest at? score threshold place
      ((bestScored (fun s => meets s threshold) score none (indices.filterMap at?)).map
        fun p => place p.2) := by
  have hbest : Best (fun s => meets s threshold) score (indices.filterMap at?) _ :=
    best_bestScored (fun _ => Score.number_of_meets) _
  generalize hl : indices.filterMap at? = l at hbest ⊢
  generalize bestScored (fun s => meets s threshold) score none l = best at hbest ⊢
  cases hbest with
  | nothing rejected =>
      have hnone : ∀ i c, at? i = some c → meets (score c) threshold = false := fun i c hc =>
        rejected c (hl ▸ List.mem_filterMap.2 ⟨i, hall i c hc, hc⟩)
      refine ⟨⟨fun _ => hnone, fun _ => rfl⟩, fun m => ⟨nofun, ?_⟩⟩
      rintro ⟨i, c, hc, -⟩
      exact absurd hc.meets (by simp [hnone i c hc.candidate])
  | @leads before after a accepted earlier later =>
      obtain ⟨i, hi, hplace⟩ := exists_index hsorted hall hl
      have hlead : EarliestBest at? score threshold i a := by
        refine ⟨hi, accepted, fun j d hd hmeets => ?_, fun j d hlt hd hmeets => ?_⟩
        · rcases hplace j d hd with ⟨hbefore, -⟩ | ⟨rfl, -⟩ | ⟨hafter, -⟩
          · exact Score.le_of_lt (earlier d hbefore hmeets)
          · exact Score.le_refl (Score.number_of_meets accepted)
          · exact later d hafter hmeets
        · rcases hplace j d hd with ⟨hbefore, -⟩ | ⟨-, rfl⟩ | ⟨-, hgt⟩
          · exact earlier d hbefore hmeets
          · exact absurd hlt (lt_irrefl j)
          · exact absurd hlt (lt_asymm hgt)
      refine ⟨⟨nofun, fun hnone => ?_⟩, fun m => ⟨?_, ?_⟩⟩
      · rw [hnone i a hi] at accepted
        cases accepted
      · rintro ⟨⟩
        exact ⟨i, a, hlead, rfl⟩
      · rintro ⟨j, c, hc, rfl⟩
        rw [hc.unique hlead]
        rfl

end Earliest

/-! ## Runs of lines -/

/-- The run of `n` lines that starts with line `i`, counted from zero: from the start of its first
line to the end of its last. -/
def Text.run? (n : Nat) (spans : List Span) (i : Nat) : Option Span := do
  let first ← spans[i]?
  let last ← spans[i + n - 1]?
  return ⟨first.start, last.stop⟩

theorem Text.windows_eq_nil {n : Nat} {spans : List Span} (h : spans.length < n) :
    windows n spans = [] := by
  cases spans with
  | nil => rfl
  | cons first rest =>
      rw [windows, List.getElem?_eq_none (by omega)]
      exact ite_self _

/-- The runs of lines come in the order of their first lines. -/
theorem Text.windows_eq {n : Nat} (hn : 1 ≤ n) (spans : List Span) :
    windows n spans = (List.range spans.length).filterMap (run? n spans) := by
  induction spans with
  | nil => rfl
  | cons first rest ih =>
      have hlater : ∀ i, run? n (first :: rest) (i + 1) = run? n rest i := by
        intro i
        have hlast : i + 1 + n - 1 = i + n - 1 + 1 := by omega
        rw [run?, run?, hlast]
        rfl
      rw [List.length_cons, List.range_succ_eq_map, List.filterMap_cons, List.filterMap_map]
      simp only [Function.comp_def, Nat.succ_eq_add_one, hlater, ← ih]
      rw [windows, if_neg (by omega)]
      cases hlast : (first :: rest)[n - 1]? with
      | some last => simp [run?, hlast]
      | none =>
          have hle := List.getElem?_eq_none_iff.1 hlast
          rw [List.length_cons] at hle
          simp [run?, hlast, windows_eq_nil (show rest.length < n by omega)]

/-! ## Runs of tokens -/

namespace Tokens

/-- The run of `k` tokens, from `low` to `high`, that starts with token `i`, counted from zero:
its place, from the start of its first token to the end of its last, and its words. -/
def run? (low high : Nat) (tokens : List Token) (p : ℕ ×ₗ ℕ) : Option (Span × List Text) :=
  let i := (ofLex p).1
  let k := (ofLex p).2
  if low ≤ k ∧ k ≤ high then do
    let first ← tokens[i]?
    let last ← tokens[i + k - 1]?
    return (⟨first.span.start, last.span.stop⟩, ((tokens.drop i).take k).map Token.text)
  else none

/-- The place and the words of a run. -/
def Window.part (w : Window) : Span × List Text := (w.span, w.texts)

/-- The indices of the runs of tokens: by their first token and then by their number. -/
def runIndices (low high n : Nat) : List (ℕ ×ₗ ℕ) :=
  (List.range n).flatMap fun i => (List.range' low (high + 1 - low)).map fun k => toLex (i, k)

theorem runIndices_sorted (low high n : Nat) : (runIndices low high n).Pairwise (· < ·) := by
  refine List.pairwise_flatMap.2 ⟨fun i _ => ?_, ?_⟩
  · have hcounts : (List.range' low (high + 1 - low)).Pairwise (· < ·) := List.pairwise_lt_range'
    refine List.pairwise_map.2 (hcounts.imp ?_)
    exact fun hlt => Prod.Lex.toLex_lt_toLex.2 (.inr ⟨rfl, hlt⟩)
  · refine List.pairwise_lt_range.imp fun hlt p hp q hq => ?_
    obtain ⟨k, -, rfl⟩ := List.mem_map.1 hp
    obtain ⟨l, -, rfl⟩ := List.mem_map.1 hq
    exact Prod.Lex.toLex_lt_toLex.2 (.inl hlt)

theorem mem_runIndices {low high : Nat} {tokens : List Token} {p : ℕ ×ₗ ℕ}
    {c : Span × List Text} (h : run? low high tokens p = some c) :
    p ∈ runIndices low high tokens.length := by
  unfold run? at h
  dsimp only at h
  split at h
  next hk =>
    obtain ⟨first, hfirst, -⟩ := Option.bind_eq_some_iff.1 h
    obtain ⟨hi, -⟩ := List.getElem?_eq_some_iff.1 hfirst
    refine List.mem_flatMap.2 ⟨(ofLex p).1, List.mem_range.2 hi, ?_⟩
    exact List.mem_map.2 ⟨(ofLex p).2, List.mem_range'_1.2 (by omega), rfl⟩
  next => cases h

theorem run?_succ {low : Nat} (hlow : 1 ≤ low) (high : Nat) (t : Token) (ts : List Token)
    (i k : Nat) : run? low high (t :: ts) (toLex (i + 1, k)) = run? low high ts (toLex (i, k)) := by
  unfold run?
  dsimp only [ofLex_toLex]
  split
  next hk =>
    have hlast : i + 1 + k - 1 = i + k - 1 + 1 := by omega
    rw [hlast]
    rfl
  next => rfl

/-- The place of a run that starts with the first token. -/
theorem span_mk {t : Token} {ts : List Token} {k : Nat} (hk : 1 ≤ k) {last : Token}
    (hlast : (t :: ts)[k - 1]? = some last) :
    (Window.mk (t :: ts) k).span = ⟨t.span.start, last.span.stop⟩ := by
  obtain ⟨k, rfl⟩ := Nat.exists_eq_add_of_le' hk
  have hget : (ts.take k).getLastD t = last := by
    rw [List.getLastD_eq_getLast?, List.getLast?_take]
    cases k with
    | zero => simpa using hlast
    | succ k =>
      rw [Nat.add_sub_cancel, List.getElem?_cons_succ] at hlast
      simp [hlast]
  simp only [Window.span, Window.tokens, List.take_succ_cons, hget]

theorem run?_zero (low high : Nat) (t : Token) (ts : List Token) {k : Nat} (hk : 1 ≤ k) :
    run? low high (t :: ts) (toLex (0, k)) =
      if low ≤ k ∧ k ≤ min high (t :: ts).length then some (Window.mk (t :: ts) k).part
      else none := by
  unfold run?
  dsimp only [ofLex_toLex]
  rw [Nat.zero_add]
  cases hlast : (t :: ts)[k - 1]? with
  | none =>
      rw [List.getElem?_eq_none_iff] at hlast
      have hno : ¬ (low ≤ k ∧ k ≤ min high (t :: ts).length) := by omega
      rw [if_neg hno]
      exact ite_self _
  | some last =>
      obtain ⟨hlength, -⟩ := List.getElem?_eq_some_iff.1 hlast
      have hiff : low ≤ k ∧ k ≤ high ↔ low ≤ k ∧ k ≤ min high (t :: ts).length := by omega
      rw [Window.part, span_mk hk hlast]
      exact if_congr hiff rfl rfl

theorem filterMap_range' {β : Type} (f : Nat → β) (low : Nat) {top high : Nat}
    (htop : top ≤ high) :
    ((List.range' low (high + 1 - low)).filterMap fun k =>
        if low ≤ k ∧ k ≤ top then some (f k) else none) =
      (List.range' low (top + 1 - low)).map f := by
  have hsplit : high + 1 - low = (top + 1 - low) + (high + 1 - low - (top + 1 - low)) := by omega
  have hkeep : ∀ k ∈ List.range' low (top + 1 - low),
      (if low ≤ k ∧ k ≤ top then some (f k) else none) = some (f k) := fun k hk =>
    if_pos (by rw [List.mem_range'_1] at hk; omega)
  rw [hsplit, ← List.range'_append_1, List.filterMap_append, List.filterMap_congr hkeep,
    List.filterMap_eq_map', List.append_right_eq_self, List.filterMap_eq_nil_iff]
  intro k hk
  rw [List.mem_range'_1] at hk
  exact if_neg (by omega)

/-- The runs of tokens come in the order of their indices. -/
theorem windows_eq {low : Nat} (hlow : 1 ≤ low) (high : Nat) (tokens : List Token) :
    (windows low high tokens).map Window.part =
      (runIndices low high tokens.length).filterMap (run? low high tokens) := by
  induction tokens with
  | nil => rfl
  | cons t ts ih =>
      have hfirst : ∀ k ∈ List.range' low (high + 1 - low),
          run? low high (t :: ts) (toLex (0, k)) = _ := fun k hk =>
        run?_zero low high t ts (hlow.trans (List.mem_range'_1.1 hk).1)
      rw [windows, List.map_append, ih, runIndices, runIndices, List.length_cons,
        List.range_succ_eq_map, List.flatMap_cons, List.filterMap_append, List.flatMap_map,
        List.filterMap_flatMap, List.filterMap_flatMap]
      congr 1
      · rw [List.filterMap_map, List.map_map]
        exact ((List.filterMap_congr hfirst).trans
          (filterMap_range' _ low (Nat.min_le_left _ _))).symm
      · simp only [List.filterMap_map, Function.comp_def, Nat.succ_eq_add_one, run?_succ hlow]

/-- A search through runs of tokens finds the earliest best one. -/
theorem windows_best {low : Nat} (hlow : 1 ≤ low) (high : Nat) (tokens : List Token)
    (score : Span × List Text → Float) (threshold : Float) (place : Span × List Text → Match) :
    FindsEarliestBest (run? low high tokens) score threshold place
      ((bestScored (fun s => meets s threshold) (fun w => score w.part) none
        (windows low high tokens)).map fun p => place p.2.part) := by
  have hmap := bestScored_map Window.part (fun s => meets s threshold) score none
    (windows low high tokens)
  rw [Option.map_none, windows_eq hlow] at hmap
  have hbest : FindsEarliestBest (run? low high tokens) score threshold place _ :=
    findsEarliestBest (runIndices_sorted low high tokens.length) (fun _ _ => mem_runIndices) place
  rwa [hmap, Option.map_map] at hbest

end Tokens

/-! ## The searches -/

namespace Lines

variable (content pattern : Text) (options : MatchOptions)

/-- The candidates of a search by lines: the runs of as many lines as the pattern has. -/
def candidate? : Nat → Option Span := Text.run? (Text.lineCount pattern) (Text.lineSpans content)

/-- The score of a candidate: how similar its canonical form is to that of the pattern. -/
def score (s : Span) : Float :=
  Distance.similarity (Text.canonical options.folding pattern)
    (Text.canonical options.folding (s.text content)) options.threshold

variable {content pattern} in
theorem mem_range_of_candidate? {i : Nat} {s : Span} (h : candidate? content pattern i = some s) :
    i ∈ List.range (Text.lineCount content) := by
  obtain ⟨first, hfirst, -⟩ := Option.bind_eq_some_iff.1 h
  obtain ⟨hi, -⟩ := List.getElem?_eq_some_iff.1 hfirst
  exact List.mem_range.2 hi

theorem candidates_eq : candidates content pattern =
    (List.range (Text.lineCount content)).filterMap (candidate? content pattern) := by
  have hcount : 1 ≤ Text.lineCount pattern := by
    rw [Text.lineCount, Text.lineSpans]
    cases hlines : Text.lines pattern with
    | nil => exact absurd hlines (Text.splitOn_ne_nil _ _)
    | cons line rest => exact Nat.le_add_left 1 _
  exact Text.windows_eq hcount _

theorem findSimilar_best (hthreshold : options.threshold < 1.0)
    (hpattern : Text.canonical options.folding pattern ≠ []) :
    FindsEarliestBest (candidate? content pattern) (score content pattern options)
      options.threshold (Match.ofSpan content) (findSimilar content pattern options) := by
  rw [findSimilar, if_neg (Score.not_le_of_lt hthreshold), if_neg (by simpa using hpattern),
    candidates_eq]
  exact findsEarliestBest List.pairwise_lt_range (fun _ _ => mem_range_of_candidate?) _

/-- The search by lines that ends with the first perfect score. -/
def findUntilPerfect : Option Match :=
  (bestUntilPerfect (fun s => meets s options.threshold) (score content pattern options) none
    (candidates content pattern)).map fun p => Match.ofSpan content p.2

theorem findUntilPerfect_eq (hthreshold : options.threshold < 1.0)
    (hpattern : Text.canonical options.folding pattern ≠ []) :
    findUntilPerfect content pattern options = findSimilar content pattern options := by
  have hle : ∀ s ∈ candidates content pattern, ¬ 1.0 < score content pattern options s :=
    fun _ _ => Distance.not_one_lt_similarity _ _ _
  rw [findUntilPerfect, bestUntilPerfect_eq _ _ hle, findSimilar,
    if_neg (Score.not_le_of_lt hthreshold), if_neg (by simpa using hpattern)]
  rfl

end Lines

namespace Tokens

variable (content pattern : Text) (options : MatchOptions)

/-- The number of tokens that the lengths of runs go by: the size of a window, or the number of
tokens in the pattern. -/
def base : Nat :=
  if 0 < options.windowSize then options.windowSize else (ofText options.folding pattern).length

/-- The candidates of a search by tokens: the runs of about as many tokens as the base says. -/
def candidate? : ℕ ×ₗ ℕ → Option (Span × List Text) :=
  run? (fewest (base pattern options)) (most (base pattern options))
    (ofText options.folding content)

/-- The score of a candidate: how similar its words are to those of the pattern. -/
def score (part : Span × List Text) : Float :=
  Distance.similarity ((ofText options.folding pattern).map Token.text) part.2 options.threshold

theorem find_best (hthreshold : options.threshold < 1.0)
    (hpattern : ofText options.folding pattern ≠ []) :
    FindsEarliestBest (candidate? content pattern options) (score pattern options)
      options.threshold (fun part => Match.ofSpan content part.1)
      (find content pattern options) := by
  have hfew : 1 ≤ fewest (base pattern options) := Nat.le_max_right _ 1
  have hbest := windows_best hfew (most (base pattern options)) (ofText options.folding content)
    (score pattern options) options.threshold fun part => Match.ofSpan content part.1
  rw [find, if_neg (by simpa using hpattern), List.length_map]
  dsimp only
  rw [if_neg (Score.not_le_of_lt hthreshold), Option.map_map]
  exact hbest

end Tokens

/-- Below a threshold of one both searches by scores find the earliest best run, of as many lines
as the pattern has or of about as many tokens.  The search by lines may end with the first perfect
score. -/
theorem searches_find_earliest_best (content pattern : Text) (options : MatchOptions)
    (hthreshold : options.threshold < 1.0) :
    (Text.canonical options.folding pattern ≠ [] →
      FindsEarliestBest (Lines.candidate? content pattern) (Lines.score content pattern options)
        options.threshold (Match.ofSpan content) (Lines.findSimilar content pattern options) ∧
      Lines.findUntilPerfect content pattern options =
        Lines.findSimilar content pattern options) ∧
    (Tokens.ofText options.folding pattern ≠ [] →
      FindsEarliestBest (Tokens.candidate? content pattern options) (Tokens.score pattern options)
        options.threshold (fun part => Match.ofSpan content part.1)
        (Tokens.find content pattern options)) := by
  refine ⟨fun hpattern => ⟨?_, ?_⟩, fun hpattern => ?_⟩
  · exact Lines.findSimilar_best content pattern options hthreshold hpattern
  · exact Lines.findUntilPerfect_eq content pattern options hthreshold hpattern
  · exact Tokens.find_best content pattern options hthreshold hpattern

/-- Both lines are the pattern, and both words are; the first one of each is the earliest. -/
theorem searches_find_earliest_of_two :
    (∃ i s, EarliestBest (Lines.candidate? "a\na".toList ['a'])
        (Lines.score "a\na".toList ['a'] { threshold := 0.5 }) 0.5 i s ∧
        ⟨⟨0, 1⟩, ['a']⟩ = Match.ofSpan "a\na".toList s) ∧
      ∃ i part, EarliestBest (Tokens.candidate? "a\na".toList ['a'] { threshold := 0.5 })
        (Tokens.score ['a'] { threshold := 0.5 }) 0.5 i part ∧
        ⟨⟨0, 1⟩, ['a']⟩ = Match.ofSpan "a\na".toList part.1 := by
  obtain ⟨hlines, htokens⟩ := searches_find_earliest_best "a\na".toList ['a']
    { threshold := 0.5 } (by decide +kernel)
  exact ⟨((hlines (by decide)).1.some_iff _).1 (by decide +kernel),
    ((htokens (by decide)).some_iff _).1 (by decide +kernel)⟩

end Emend
