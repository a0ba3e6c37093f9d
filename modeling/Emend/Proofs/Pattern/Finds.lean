import Emend.Proofs.Pattern.Reach
import Emend.Proofs.Pattern.Threads
/-!
# Nothing is missed

If a path through a pattern can be followed from a place of a text, then a search of this text finds
a match, and it starts no later (`find_of_leads`).

Among the threads of a search there are early ones, which started no later than that place, and one
of them can follow a path (`Alive`).  What comes of the early ones does not depend on the others, so
either they find a match, or the same can be said at the next place (`Alive.frontOf`).
-/

namespace Emend.Pattern

variable {n : Node} {low bound : Nat} {head t : Text} {best : Option Marks} {threads : List Thread}

/-- The first of some threads started early, and one of them can follow a path. -/
def Alive (bound : Nat) (s : Spot) (threads : List Thread) : Prop :=
  ∃ early late, threads = early ++ late ∧ (∀ t ∈ early, t.marks.start ≤ bound) ∧
    ∃ t ∈ early, Leads s t.rest

/-- The points of the thread that starts a match. -/
def Node.ground (n : Node) : List (Nat × List Node) := pointsOf [n, .mark 1]

theorem eq_of_mem_ground (hn : n.numbers.Nodup) :
    ∀ k q q', (k, q) ∈ n.ground → (k, q') ∈ n.ground → q = q' := by
  intro k q q' hq hq'
  have hpoints : n.ground = n.points [.mark 1] := List.append_nil _
  rw [hpoints] at hq hq'
  exact eq_of_mem_points hn hq hq'

theorem joined_placed (h : ∀ t ∈ threads, t.Placed n.ground) (offset : Nat) (best : Option Marks) :
    ∀ t ∈ joined n offset best threads, t.Placed n.ground := by
  unfold joined
  split
  · exact h
  · refine List.forall_mem_append.2 ⟨h, List.forall_mem_singleton.2 ?_⟩
    exact List.Subset.refl n.ground

theorem Alive.joined {s : Spot} (h : Alive bound s threads) (offset : Nat)
    (best : Option Marks) : Alive bound s (joined n offset best threads) := by
  obtain ⟨early, late, rfl, hstart, hleads⟩ := h
  unfold Pattern.joined
  split
  · exact ⟨early, late, rfl, hstart, hleads⟩
  · exact ⟨early, late ++ [starter n offset], List.append_assoc _ _ _, hstart, hleads⟩

/-- A path of a pattern is one of the thread that starts here. -/
theorem Leads.starter {s : Spot} (h : Leads s [n]) : Leads s (starter n s.offset).rest := by
  obtain ⟨w, hw, hfollow⟩ := h
  obtain ⟨s', hs'⟩ := Option.isSome_iff_exists.1 hfollow
  rw [pathsOf_singleton] at hw
  refine ⟨w ++ [.note 1], ?_, ?_⟩
  · rw [Pattern.starter, pathsOf_cons, pathsOf_singleton]
    exact Language.append_mem_mul hw rfl
  · rw [Spot.follow?_append, hs']
    rfl

section Front

variable (hn : n.numbers.Nodup) (hfollows : ∀ t ∈ threads, t.Follows n low head)
  (hsorted : threads.Pairwise fun s t => s.marks.start ≤ t.marks.start)
  (hplaced : ∀ t ∈ threads, t.Placed n.ground)

include hn hfollows hsorted hplaced

/-- An early match is found at a place, or one of the early threads leads on. -/
theorem Alive.frontOf (h : Alive bound (.between head t) threads) :
    (∃ m, (frontOf (Spot.between head t).place threads).found = some m ∧ m.start ≤ bound) ∨
      ∃ c u, t = c :: u ∧ Alive bound (.between (head ++ [c]) u)
        (frontOf (Spot.between head t).place threads).next.reverse := by
  obtain ⟨early, late, rfl, hstart, hleads⟩ := h
  have hroot := eq_of_mem_ground hn
  obtain ⟨hplacedEarly, hplacedLate⟩ := List.forall_mem_append.1 hplaced
  have hgrows : (Pattern.frontOf (Spot.between head t).place early).Grows
      (Pattern.frontOf (Spot.between head t).place (early ++ late)) :=
    frontOf_grows hroot hplacedLate
  have horderly := frontOf_orderly (p := (Spot.between head t).place) rfl
    (List.forall_mem_append.1 hfollows).1 (List.pairwise_append.1 hsorted).1 hstart
  cases hfound : (frontOf (Spot.between head t).place early).found with
  | some m => exact .inl ⟨m, hgrows.found m hfound, (horderly.found m hfound).2.1⟩
  | none =>
      have hleadsOn := (frontOf_leads hroot hplacedEarly hleads).resolve_left
        (by rw [hfound]; exact Bool.false_ne_true)
      obtain ⟨c, s', hstep, thread, hmem, hlead⟩ := hleadsOn
      refine .inr ?_
      cases t with
      | nil => cases hstep
      | cons d u =>
          obtain ⟨more, hmore⟩ := hgrows.next
          have hcd : d = c := by
            rw [Spot.step?] at hstep
            split at hstep
            · next hd => exact Option.some.inj hd
            · cases hstep
          subst hcd
          rw [Spot.step?_take] at hstep
          cases hstep
          let next := (Pattern.frontOf (Spot.between head (d :: u)).place early).next
          refine ⟨d, u, rfl, next.reverse, more.reverse, ?_, ?_, ?_⟩
          · rw [← hmore, List.reverse_append]
          · exact fun t ht => horderly.early hfound t (List.mem_reverse.1 ht)
          · exact ⟨thread, List.mem_reverse.2 hmem, hlead⟩

end Front

section Run

/-- A search goes on at the next place. -/
theorem run_cons (n : Node) (head t : Text) (c : Char)
    (hgoing : ¬ (best.isSome && threads.isEmpty) = true) :
    run n head.getLast? (Text.size head) best threads (c :: t) =
      let front := frontOf (Spot.between head (c :: t)).place
        (joined n (Text.size head) best threads)
      run n (head ++ [c]).getLast? (Text.size (head ++ [c])) (front.found.or best)
        front.next.reverse t := by
  have hsize := Text.size_concat head c
  have hlast : (head ++ [c]).getLast? = some c := List.getLast?_concat
  have hjoin := frontOf_join n (Spot.between head (c :: t)).place best threads
  rw [run, if_neg hgoing, hlast, hsize]
  exact congrArg (fun front : Front => run n (some c) (Text.size head + c.utf8Size)
    (front.found.or best) front.next.reverse t) hjoin

variable (hslots : 0 ∉ n.slots) (hn : n.numbers.Nodup)

include hslots

/-- What is found in the end started no later than what has been found so far. -/
theorem run_of_best (h : Searching n low head best threads) (before : Option Char) {m : Marks}
    (hm : best = some m) (t : Text) :
    ∃ m', run n before (Text.size head) best threads t = some m' ∧ m'.start ≤ m.start := by
  rcases run_isMatch hslots h before t with hsame | ⟨m', -, -, hrun, -, -, hstart⟩
  · exact ⟨m, hsame.trans hm, Nat.le_refl _⟩
  · exact ⟨m', hrun, hstart m hm⟩

theorem Searching.step_joined (h : Searching n low head best threads) (c : Char) (t : Text) :
    let front := frontOf (Spot.between head (c :: t)).place
      (joined n (Text.size head) best threads)
    Searching n low (head ++ [c]) (front.found.or best) front.next.reverse := by
  have hstep := h.step (p := (Spot.between head (c :: t)).place) hslots rfl rfl
  rwa [frontOf_join] at hstep

/-- What is found at a place started no later. -/
theorem Searching.start_le_of_found (h : Searching n low head best threads)
    (hbest : ∀ m, best = some m → m.start ≤ Text.size head) (c : Char) (t : Text) :
    ∀ m, (frontOf (Spot.between head (c :: t)).place
      (joined n (Text.size head) best threads)).found.or best = some m →
        m.start ≤ Text.size (head ++ [c]) := by
  intro m hm
  have hjoin := frontOf_join n (Spot.between head (c :: t)).place best threads
  rw [Text.size_append]
  rcases Option.or_eq_some_iff.1 hm with hfound | ⟨-, hold⟩
  · obtain ⟨⟨front, u, hhead, -, -, hstart, -⟩, -⟩ :=
      h.found (p := (Spot.between head (c :: t)).place) hslots rfl (hjoin ▸ hfound)
    rw [Marks.start_eq hstart, hhead, Text.size_append, Nat.add_assoc]
    exact Nat.le_add_right _ _
  · exact Nat.le_add_right_of_le (hbest m hold)

include hn

/-- While a thread that started early can follow a path, an early match is found. -/
theorem run_of_alive (h : Searching n low head best threads)
    (hplaced : ∀ t ∈ threads, t.Placed n.ground)
    (halive : Alive bound (.between head t) (joined n (Text.size head) best threads)) :
    ∃ m, run n head.getLast? (Text.size head) best threads t = some m ∧ m.start ≤ bound := by
  induction t generalizing head best threads with
  | nil =>
      obtain ⟨hfollows, hsorted⟩ := h.joined_follows hslots
      have hjoined := joined_placed hplaced (Text.size head) best
      rcases halive.frontOf hn hfollows hsorted hjoined with ⟨m, hfound, hstart⟩ | ⟨c, u, hnil, -⟩
      · refine ⟨m, ?_, hstart⟩
        rw [run, frontOf_join]
        exact congrArg (Option.or · best) hfound
      · cases hnil
  | cons c t ih =>
      obtain ⟨hfollows, hsorted⟩ := h.joined_follows hslots
      have hjoined := joined_placed hplaced (Text.size head) best
      have hstep := h.step_joined hslots c t
      have hgoing : ¬ (best.isSome && threads.isEmpty) = true := by
        intro hdone
        obtain ⟨hbest, hnone⟩ := Bool.and_eq_true_iff.1 hdone
        obtain ⟨early, late, hthreads, -, thread, hmem, -⟩ := halive
        rw [joined, if_pos hbest, List.isEmpty_iff.1 hnone] at hthreads
        have hmem := List.mem_append_left late hmem
        rw [← hthreads] at hmem
        cases hmem
      rw [run_cons n head t c hgoing]
      rcases halive.frontOf hn hfollows hsorted hjoined with
        ⟨m, hfound, hstart⟩ | ⟨d, u, hcons, hon⟩
      · have hbest := congrArg (Option.or · best) hfound
        obtain ⟨m', hlater, hle⟩ := run_of_best hslots hstep _ hbest t
        exact ⟨m', hlater, Nat.le_trans hle hstart⟩
      · cases hcons
        refine ih hstep (fun k hk => ?_) (hon.joined _ _)
        exact frontOf_placed (eq_of_mem_ground hn) hjoined k (List.mem_reverse.1 hk)

/-- A search up to a place from which a path can be followed. -/
theorem run_of_leads (u : Text) (h : Searching n low head best threads)
    (hplaced : ∀ t ∈ threads, t.Placed n.ground)
    (hbest : ∀ m, best = some m → m.start ≤ Text.size head)
    (hleads : Leads (.between (head ++ u) t) [n]) :
    ∃ m, run n head.getLast? (Text.size head) best threads (u ++ t) = some m ∧
      m.start ≤ Text.size (head ++ u) := by
  induction u generalizing head best threads with
  | nil =>
      rw [List.append_nil] at hleads ⊢
      cases hb : best with
      | some m =>
          subst hb
          obtain ⟨m', hrun, hstart⟩ := run_of_best hslots h head.getLast? rfl t
          exact ⟨m', hrun, Nat.le_trans hstart (hbest m rfl)⟩
      | none =>
          subst hb
          obtain ⟨hfollows, -⟩ := h.joined_follows hslots
          refine run_of_alive hslots hn h hplaced ⟨_, [], (List.append_nil _).symm, ?_, ?_⟩
          · exact fun k hk => (hfollows k hk).start_le
          · exact ⟨_, List.mem_append_right _ (List.mem_singleton_self _), hleads.starter⟩
  | cons c u ih =>
      have hle : Text.size head ≤ Text.size (head ++ c :: u) := by
        rw [Text.size_append]
        exact Nat.le_add_right _ _
      by_cases hgoing : (best.isSome && threads.isEmpty) = true
      · obtain ⟨m, hm⟩ := Option.isSome_iff_exists.1 (Bool.and_eq_true_iff.1 hgoing).1
        obtain ⟨m', hrun, hstart⟩ := run_of_best hslots h head.getLast? hm (c :: u ++ t)
        exact ⟨m', hrun, Nat.le_trans hstart (Nat.le_trans (hbest m hm) hle)⟩
      · have hjoined := joined_placed hplaced (Text.size head) best
        have happend := List.append_cons head c u
        rw [happend] at hleads ⊢
        rw [List.cons_append, run_cons n head (u ++ t) c hgoing]
        refine ih (h.step_joined hslots c (u ++ t)) (fun k hk => ?_)
          (h.start_le_of_found hslots hbest c (u ++ t)) hleads
        exact frontOf_placed (eq_of_mem_ground hn) hjoined k (List.mem_reverse.1 hk)

end Run

/-- If a path through a pattern can be followed from a place of a text, a search of the text finds a
match that starts there or earlier. -/
theorem find_of_leads (hslots : 0 ∉ n.slots) (hn : n.numbers.Nodup)
    (h : Leads (.between head t) [n]) :
    ∃ found, find n (head ++ t) = some found ∧ found.marks.start ≤ Text.size head := by
  obtain ⟨m, hrun, hstart⟩ :=
    run_of_leads hslots hn head (searching_start n []) (by simp) (by simp) h
  exact ⟨⟨m⟩, congrArg (Option.map Found.mk) hrun, hstart⟩

end Emend.Pattern
