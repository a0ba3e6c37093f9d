import Emend.Proofs.Pattern.Alike
import Emend.Proofs.Pattern.Threads
/-!
# Matches in longer texts

A match that starts where a text starts does not depend on what comes after the text, unless this
can be taken into the match (`find_append_of_start`).

The place at which the text ends is the only one that looks different in a longer text.  If the
conditions of the pattern hold there all the same, both searches find the same up to this place
(`Searching.found_eq`).  The longer search goes on with the threads that are left, and what it finds
later started no later, so a text of the pattern would start with the whole text.
-/

namespace Emend.Pattern

variable {n : Node} {p : Place} {low : Nat}

/-! ## The end of the text -/

/-- A pattern is like itself if its conditions are related to themselves. -/
theorem Node.alike_self {L : Look → Look → Prop} {k : Node} (h : ∀ l ∈ k.looks, L l l) :
    k.Alike Eq L k := by
  induction k with
  | empty => exact .empty
  | one number set => exact .one number rfl
  | look cond => exact .look (h cond (List.mem_singleton_self cond))
  | mark slot => exact .mark slot
  | seq a b iha ihb =>
      obtain ⟨ha, hb⟩ := List.forall_mem_append.1 h
      exact .seq (iha ha) (ihb hb)
  | alt number a b iha ihb =>
      obtain ⟨ha, hb⟩ := List.forall_mem_append.1 h
      exact .alt number (iha ha) (ihb hb)
  | loop number greedy round ih => exact .loop number greedy (ih h)
  | rounds number greedy round ih => exact .rounds number greedy (ih h)

/-- At places with the same offset where the same conditions hold, a search finds the same. -/
theorem Searching.found_eq {head : Text} {best : Option Marks} {threads : List Thread}
    (h : Searching n low head best threads) {q : Place} (hoffset : p.offset = q.offset)
    (hlooks : ∀ l ∈ n.looks, l.holds p = l.holds q) :
    (frontOf p (join n best threads)).found = (frontOf q (join n best threads)).found := by
  have hunseen : Unseen Eq (fun l l' => l.holds p = l'.holds q) (fun _ _ => True) p q :=
    ⟨hoffset, fun _ _ hl => hl, fun _ _ _ _ _ _ _ _ _ => trivial⟩
  have hthreads : ∀ t ∈ threads, Thread.Alike Eq (fun l l' => l.holds p = l'.holds q) t t := by
    intro t ht
    obtain ⟨-, -, ns, -, -, hrest, hparts, -, -⟩ := h.follows t ht
    refine ⟨List.forall₂_same.2 fun k hk => Node.alike_self fun l hl => ?_, rfl⟩
    rw [hrest] at hk
    rcases List.mem_append.1 hk with hk | hk
    · exact hlooks l ((hparts k hk).looks l hl)
    · rw [List.mem_singleton.1 hk] at hl
      cases hl
  have hjoin := join_alike (Node.alike_self hlooks) best (List.forall₂_same.2 hthreads)
  exact (frontOf_alike hunseen hjoin trivial).found

/-! ## Matches at the start of a text -/

/-- A match that starts with the text is the same in a longer text, if no text of the pattern starts
with the whole text and the character after it. -/
theorem find_append_of_start (hslots : 0 ∉ n.slots) {t rest : Text} {c : Char}
    (hlooks : ∀ l ∈ n.looks, ∀ before offset,
      l.holds ⟨before, none, offset⟩ = l.holds ⟨before, some c, offset⟩)
    (hover : ∀ u, u <+: rest → t ++ c :: u ∉ n.language) {found : Found}
    (hstart : found.marks.start = 0) :
    find n (t ++ c :: rest) = some found ↔ find n t = some found := by
  obtain ⟨before, best, threads, hsearch, hrun⟩ := run_append hslots (searching_start n []) none t
  rw [List.nil_append] at hsearch hrun
  have hfind : ∀ u, find n (t ++ u) =
      (run n before (Text.size t) best threads u).map Found.mk := fun u =>
    congrArg (Option.map Found.mk) (hrun u)
  have hshort := hfind []
  rw [List.append_nil, run] at hshort
  have hagree := hsearch.found_eq (p := ⟨before, none, Text.size t⟩)
    (q := ⟨before, some c, Text.size t⟩) rfl fun l hl => hlooks l hl before (Text.size t)
  rw [hagree] at hshort
  rw [hfind, hshort, run]
  -- What is found later, and starts with the text, would go over its end.
  split
  · next hdone =>
    obtain ⟨hbest, hnone⟩ := Bool.and_eq_true_iff.1 hdone
    obtain ⟨m, rfl⟩ := Option.isSome_iff_exists.1 hbest
    rw [List.isEmpty_iff.1 hnone]
    rfl
  · have hstep := hsearch.step (p := ⟨before, some c, Text.size t⟩) hslots rfl rfl
    have hsize := Text.size_concat t c
    rw [← hsize]
    rcases run_isMatch hslots hstep (some c) rest with
      hsame | ⟨m, u, v, hlater, hrest, hmatch, hearly⟩
    · rw [hsame]
    · have hover : m.start ≠ 0 := by
        intro hzero
        obtain ⟨front, w, hhead, -, hw, hm, -⟩ := hmatch
        rw [Marks.start_eq hm] at hzero
        rw [Text.eq_nil_of_size hzero, List.nil_append] at hhead
        refine hover u ⟨v, hrest.symm⟩ ?_
        rw [← hhead, List.append_assoc] at hw
        exact hw
      rw [hlater]
      constructor
      · intro heq
        cases heq
        exact absurd hstart hover
      · intro heq
        obtain ⟨b, hb, rfl⟩ := Option.map_eq_some_iff.1 heq
        have hle := hearly b hb
        simp only at hstart
        omega

/-! ## What is made of matches -/

section Made

variable {β : Type} {f : Found → Option β} {start : β → Nat}
  (hslots : 0 ∉ n.slots) (hf : ∀ found b, f found = some b → start b = found.span.start)

include hslots

theorem start_findFrom {before : Option Char} {head t : Text} {found : Found}
    (h : findFrom n before (Text.size head) t = some found) :
    found.span.start = found.marks.start ∧ Text.size head ≤ found.span.start := by
  obtain ⟨u, v, -, front, w, -, hle, -, hstart, hstop⟩ := findFrom_isMatch hslots h
  have hspan : found.span = ⟨Text.size front, Text.size (head ++ u)⟩ := by
    simp [Found.span, Found.group?, Found.slot?, hstart, hstop]
  rw [hspan, Marks.start_eq hstart]
  exact ⟨rfl, hle⟩

theorem start_find {t : Text} {found : Found} (h : find n t = some found) :
    found.span.start = found.marks.start :=
  (@start_findFrom n hslots none [] t found h).1

include hf

theorem le_start_searchSome {resume : Nat} {before : Option Char} {head t : Text} {b : β}
    (h : searchSome n f resume before (Text.size head) t = some b) : resume ≤ start b := by
  induction t generalizing resume before head with
  | nil =>
      rw [searchSome] at h
      split at h
      · cases h
      · obtain ⟨found, hfound, hb⟩ := Option.bind_eq_some_iff.1 h
        have hle := (start_findFrom hslots hfound).2
        have hstart := hf found b hb
        omega
  | cons c t ih =>
      have hsize := Text.size_concat head c
      rw [searchSome, ← hsize] at h
      split at h
      · exact ih h
      · cases hfound : findFrom n before (Text.size head) (c :: t) with
        | none =>
            rw [hfound] at h
            cases h
        | some found =>
            have hle := (start_findFrom hslots hfound).2
            rw [hfound] at h
            cases hb : f found with
            | some b' =>
                simp only [hb, Option.some.injEq] at h
                have hstart := hf found b' hb
                subst h
                omega
            | none =>
                simp only [hb] at h
                have hlater := ih h
                omega

/-- What starts with the text has been made of the first match. -/
theorem findSome_of_start {t : Text} {b : β} :
    findSome n f t = some b ∧ start b = 0 ↔
      ∃ found, find n t = some found ∧ found.marks.start = 0 ∧ f found = some b := by
  have hfirst := @start_find n hslots t
  rw [findSome]
  cases t with
  | nil =>
      rw [searchSome, if_neg (Nat.not_lt_zero 0), Option.bind_eq_some_iff]
      constructor
      · rintro ⟨⟨found, hfound, hb⟩, hzero⟩
        exact ⟨found, hfound, by rw [← hfirst hfound, ← hf found b hb, hzero], hb⟩
      · rintro ⟨found, hfound, hzero, hb⟩
        exact ⟨⟨found, hfound, hb⟩, by rw [hf found b hb, hfirst hfound, hzero]⟩
  | cons c t =>
      have hfind : findFrom n none 0 (c :: t) = find n (c :: t) := rfl
      rw [searchSome, if_neg (Nat.not_lt_zero 0), hfind]
      dsimp only
      cases hfound : find n (c :: t) with
      | none => simp
      | some found =>
          simp only [Option.some.injEq, exists_eq_left']
          cases hb : f found with
          | some b' =>
              simp only [Option.some.injEq]
              constructor
              · rintro ⟨rfl, hzero⟩
                exact ⟨by rw [← hfirst hfound, ← hf found b' hb, hzero], rfl⟩
              · rintro ⟨hzero, rfl⟩
                exact ⟨rfl, by rw [hf found b' hb, hfirst hfound, hzero]⟩
          | none =>
              simp only [reduceCtorEq, and_false, iff_false, not_and]
              intro hlater hzero
              have hsize : Text.size [c] = 0 + c.utf8Size := by
                rw [Text.size_singleton, Nat.zero_add]
              rw [← hsize] at hlater
              have hle := le_start_searchSome hslots hf hlater
              omega

end Made

end Emend.Pattern
