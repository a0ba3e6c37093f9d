import Mathlib.Order.CompletePartialOrder
import Emend.Proofs.Pattern.Invariants
import Emend.Proofs.Pattern.Paths
/-!
# What a search finds has been traced

Every thread has come along a path, what it still wants to read continues this path, and its marks
are what the path has noted (`Traced`).  This is kept when a thread goes on at a place
(`Traced.step`) and when it takes a character (`Traced.take`), and so it is by a search at every
place (`lasts_traced`).

So a match is a path through the pattern that can be followed in the text, and its marks are the
notes of this path (`find_traced`).
-/

namespace Emend.Pattern

open scoped Computability

variable {n : Node} {content : Text} {s : Spot} {m : Marks} {ns : List Node}

/-- A path has led to a spot of a text, and has noted the marks.  It is continued by what the
patterns read. -/
def Traced (n : Node) (content : Text) (s : Spot) (m : Marks) (ns : List Node) : Prop :=
  ∃ head t w, content = head ++ t ∧ (Spot.between head t).follow? w = some s ∧
    m = noted (Text.size head) w [] ∧ ∀ v ∈ pathsOf ns, w ++ v ∈ (Node.group 0 n).paths

/-- The thread that starts at a spot has been traced. -/
theorem traced_start (n : Node) (head t : Text) :
    Traced n (head ++ t) (.between head t) [] [.group 0 n] :=
  ⟨head, t, [], rfl, rfl, rfl, fun v hv => by rwa [pathsOf_singleton] at hv⟩

/-- A trace goes on along a path. -/
theorem Traced.extend (h : Traced n content s m ns) {s' : Spot} {x : List Step} {ns' : List Node}
    (hx : s.follow? x = some s') (hns : ∀ v ∈ pathsOf ns', x ++ v ∈ pathsOf ns) :
    Traced n content s' (noted s.offset x m) ns' := by
  obtain ⟨head, t, w, hcontent, hw, rfl, hwanted⟩ := h
  refine ⟨head, t, w ++ x, hcontent, ?_, ?_, fun v hv => ?_⟩
  · rw [Spot.follow?_append, hw, Option.bind_some, hx]
  · rw [noted_append, (Spot.ahead_of_follow? hw).2]
    rfl
  · rw [List.append_assoc]
    exact hwanted _ (hns v hv)

/-- A trace is one for patterns that read less. -/
theorem Traced.mono (h : Traced n content s m ns) {ns' : List Node}
    (hns : pathsOf ns' ≤ pathsOf ns) : Traced n content s m ns' :=
  h.extend (x := []) rfl fun _ hv => hns hv

/-- All that has come of the threads at a spot has been traced. -/
structure Front.Traced (n : Node) (content : Text) (s : Spot) (f : Front) : Prop where
  /-- The threads have taken the next character. -/
  next : ∀ t ∈ f.next, ∃ c s', s.step? (.take c) = some s' ∧
    Pattern.Traced n content s' t.marks t.rest
  /-- The match that has been found is one. -/
  found : ∀ m, f.found = some m → Pattern.Traced n content s m []

theorem Front.traced_empty (n : Node) (content : Text) (s : Spot) : Front.Traced n content s {} :=
  ⟨by simp, by simp⟩

/-- Going on at a spot goes on along a path. -/
theorem Traced.step {m' : Marks} {ns' : List Node} (hstep : Goes s.place m ns m' ns')
    (h : Traced n content s m ns) : Traced n content s m' ns' := by
  cases hstep with
  | empty => exact h.mono (pathsOf_empty _).ge
  | @look _ l hl =>
      have hfollow : s.follow? [.check l] = some s := by
        rw [Spot.follow?, Spot.step?, if_pos hl]
        rfl
      refine h.extend hfollow fun v hv => ?_
      rw [pathsOf_cons]
      exact Language.append_mem_mul rfl hv
  | @mark _ slot =>
      refine h.extend (x := [.note slot]) rfl fun v hv => ?_
      rw [pathsOf_cons]
      exact Language.append_mem_mul rfl hv
  | seq => exact h.mono (pathsOf_seq _).ge
  | first => exact h.mono (sup_le_iff.1 (pathsOf_alt _).ge).1
  | second => exact h.mono (sup_le_iff.1 (pathsOf_alt _).ge).2
  | again => exact h.mono (sup_le_iff.1 (pathsOf_loop _).ge).2
  | leave => exact h.mono (sup_le_iff.1 (pathsOf_loop _).ge).1
  | rounds => exact h.mono (pathsOf_rounds _).ge

/-- A thread that takes a character goes on along a path at the next spot. -/
theorem Traced.take {k : Nat} {set : CharSet} {c : Char}
    (h : Traced n content s m (.one k set :: ns)) (hc : s.place.after = some c)
    (hset : set.contains c = true) :
    ∃ s', s.step? (.take c) = some s' ∧ Traced n content s' m ns := by
  have hstep : s.step? (.take c) = some ⟨some c, s.offset + c.utf8Size, s.ahead.tail⟩ := if_pos hc
  have hfollow : s.follow? [.take c] = s.step? (.take c) := by
    rw [Spot.follow?, hstep]
    rfl
  have hone : [Step.take c] ∈ steps.one set := ⟨c, hset, rfl⟩
  refine ⟨_, hstep, h.extend (x := [.take c]) (hfollow.trans hstep) fun v hv => ?_⟩
  rw [pathsOf_cons]
  exact Language.append_mem_mul hone hv

/-- At a spot, the front stays traced. -/
theorem keeps_traced (n : Node) (content : Text) (s : Spot) :
    Front.Keeps s.place (Traced n content s) (Front.Traced n content s) where
  step := Traced.step
  passed f k hf := ⟨hf.next, hf.found⟩
  push f m rest k set c _ hf hc hset hm := by
    obtain ⟨s', hs, ht⟩ := hm.take hc hset
    exact ⟨List.forall_mem_cons.2 ⟨⟨c, s', hs, ht⟩, hf.next⟩, hf.found⟩
  finish f m _ hf hm := by
    refine ⟨hf.next, fun found hfound => ?_⟩
    cases hfound
    exact hm

theorem frontOf_traced {threads : List Thread}
    (h : ∀ t ∈ threads, Traced n content s t.marks t.rest) :
    (frontOf s.place threads).Traced n content s :=
  (keeps_traced n content s).frontOf h (Front.traced_empty n content s)

/-! ## Searches -/

/-- A search keeps its threads traced, and what it finds has been traced. -/
theorem lasts_traced (n : Node) (content : Text) :
    Thread.Keeps n content (fun head t k => Traced n content (.between head t) k.marks k.rest)
      fun m => ∃ s, Traced n content s m [] where
  start head t hcontent := by
    rw [hcontent]
    exact traced_start n head t
  next {head c t _} _ h k hk := by
    obtain ⟨d, s', hstep, hk⟩ := (frontOf_traced (s := .between head (c :: t)) h).next k hk
    rw [Spot.step?] at hstep
    split at hstep
    · next hd =>
      cases hstep
      cases hd
      rw [Spot.between_concat]
      exact hk
    · cases hstep
  found {head t _ m} _ h hm := ⟨_, (frontOf_traced (s := .between head t) h).found m hm⟩

/-- A match is a path through the pattern that can be followed in the text.  Its marks are what the
path notes. -/
theorem find_traced {t : Text} {found : Found} (h : find n t = some found) :
    ∃ head rest w s, t = head ++ rest ∧ (Spot.between head rest).follow? w = some s ∧
      found.marks = noted (Text.size head) w [] ∧ w ∈ (Node.group 0 n).paths := by
  obtain ⟨m, hm, rfl⟩ := Option.map_eq_some_iff.1 h
  obtain ⟨s, head, rest, w, ht, hw, hnoted, hwanted⟩ :=
    (lasts_traced n t).run [] t rfl (by simp) (by simp) m hm
  refine ⟨head, rest, w, s, ht, hw, hnoted, ?_⟩
  have hnil := hwanted [] rfl
  rwa [List.append_nil] at hnil

end Emend.Pattern
