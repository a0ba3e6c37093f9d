import Emend.Proofs.Pattern.Numbers
import Emend.Proofs.Pattern.Paths
/-!
# What a search reaches at a place

At a place, threads go through the pattern wherever they can get to without taking a character, but
no point is passed twice.  That nothing is missed is shown as for a search of a graph.

*Points.*  A point stands for what is to be matched from there on, and its number tells which point
it is (`eq_of_mem_points`).

*Pending points.*  A point that has been passed is done when all has been passed that comes next
after it (`Done`).  Those that are still being explored are pending, and the others that have been
passed are done (`Settled`).  Going through a pattern keeps this, and passes all that comes next
(`explore_advances`), or else it finds a match.

*Paths.*  When nothing is pending, a path that can be followed leads from what has been passed over
points that have been passed, up to one that takes a character, and a thread goes on from there
(`Settled.leadsOn`).
-/

namespace Emend.Pattern

open scoped Computability

variable {p : Place} {root : List (Nat × List Node)} {S : List Nat} {f g : Front}

/-! ## Points -/

/-- The points of a pattern, by number, each with what is to be matched from there on. -/
def Node.points : Node → (rest : List Node) → List (Nat × List Node)
  | .empty, _ | .look _, _ | .mark _, _ => []
  | .one k s, rest => [(k, .one k s :: rest)]
  | .seq a b, rest => a.points (b :: rest) ++ b.points rest
  | .alt k a b, rest => (k, .alt k a b :: rest) :: (a.points rest ++ b.points rest)
  | .loop k greedy r, rest | .rounds k greedy r, rest =>
    (k, .loop k greedy r :: rest) :: r.points (.loop k greedy r :: rest)

/-- The points of patterns one after the other. -/
def pointsOf : List Node → List (Nat × List Node)
  | [] => []
  | n :: ns => n.points ns ++ pointsOf ns

theorem map_fst_points (n : Node) (rest : List Node) :
    (n.points rest).map Prod.fst = n.numbers := by
  induction n generalizing rest with
  | empty | look | mark | one => rfl
  | seq a b iha ihb => rw [Node.points, List.map_append, iha, ihb, Node.numbers]
  | alt k a b iha ihb =>
      rw [Node.points, List.map_cons, List.map_append, iha, ihb, Node.numbers]
  | loop k greedy r ih => rw [Node.points, List.map_cons, ih, Node.numbers]
  | rounds k greedy r ih => rw [Node.points, List.map_cons, ih, Node.numbers]

/-- A number tells which point it is. -/
theorem eq_of_mem_points {n : Node} (hn : n.numbers.Nodup) {rest : List Node} {k : Nat}
    {q q' : List Node} (hq : (k, q) ∈ n.points rest) (hq' : (k, q') ∈ n.points rest) : q = q' := by
  rw [← map_fst_points n rest] at hn
  exact congrArg Prod.snd (List.inj_on_of_nodup_map hn hq hq' rfl)

/-! ## What has been passed -/

/-- A front has become another one. -/
structure Front.Grows (f g : Front) : Prop where
  /-- Points stay passed. -/
  passed : ∀ k, f.passed.testBit k = true → g.passed.testBit k = true
  /-- Threads are added at the end. -/
  next : f.next <:+ g.next
  /-- A match that has been found stays. -/
  found : ∀ m, f.found = some m → g.found = some m

theorem Front.Grows.refl (f : Front) : f.Grows f := ⟨fun _ h => h, List.suffix_rfl, fun _ h => h⟩

theorem Front.Grows.trans {h : Front} (hfg : f.Grows g) (hgh : g.Grows h) : f.Grows h :=
  ⟨fun k hk => hgh.passed k (hfg.passed k hk), hfg.next.trans hgh.next,
    fun m hm => hgh.found m (hfg.found m hm)⟩

theorem testBit_pass (passed k j : Nat) :
    (passed ||| 1 <<< k).testBit j = true ↔ passed.testBit j = true ∨ j = k := by
  rw [Nat.testBit_or, Nat.one_shiftLeft, Nat.testBit_two_pow, Bool.or_eq_true, decide_eq_true_eq]
  exact or_congr_right eq_comm

theorem Front.grows_passed (f : Front) (k : Nat) :
    f.Grows { f with passed := f.passed ||| 1 <<< k } :=
  ⟨fun j hj => (testBit_pass f.passed k j).2 (.inl hj), List.suffix_rfl, fun _ hm => hm⟩

/-- The points that come first in a pattern have been passed.  Where the end of the pattern can be
reached, `later` holds. -/
def Node.Covered (p : Place) (f : Front) : Node → (later : Prop) → Prop
  | .empty, later | .mark _, later => later
  | .look l, later => l.holds p = true → later
  | .one k _, _ | .alt k _ _, _ | .loop k _ _, _ => f.passed.testBit k = true
  | .seq a b, later => a.Covered p f (b.Covered p f later)
  | .rounds k _ r, _ => r.Covered p f (f.passed.testBit k = true)

/-- The points that come first in patterns have been passed, and their end cannot be reached. -/
def Covered (p : Place) (f : Front) : List Node → Prop
  | [] => False
  | n :: ns => n.Covered p f (Covered p f ns)

theorem Node.Covered.mono (n : Node) (hfg : f.Grows g) {later later' : Prop}
    (hlater : later → later') (h : n.Covered p f later) : n.Covered p g later' := by
  induction n generalizing later later' with
  | empty | mark => exact hlater h
  | look l => exact fun hl => hlater (h hl)
  | one k | alt k | loop k => exact hfg.passed k h
  | seq a b iha ihb => exact iha (ihb hlater) h
  | rounds k greedy r ih => exact ih (hfg.passed k) h

theorem Covered.mono {ns : List Node} (hfg : f.Grows g) (h : Covered p f ns) : Covered p g ns := by
  induction ns with
  | nil => exact h
  | cons n ns ih => exact Node.Covered.mono n hfg ih h

/-- All that comes next after a point has been passed.  A thread has taken the character if the
point takes it. -/
def Done (p : Place) (f : Front) : List Node → Prop
  | .one _ s :: rest => p.after.any s.contains = true → ∃ m, ⟨rest, m⟩ ∈ f.next
  | .alt _ a b :: rest => Covered p f (a :: rest) ∧ Covered p f (b :: rest)
  | .loop k greedy r :: rest =>
    Covered p f (r :: .loop k greedy r :: rest) ∧ Covered p f rest
  | _ => True

theorem Done.mono {q : List Node} (hfg : f.Grows g) (h : Done p f q) : Done p g q := by
  unfold Done at h ⊢
  split
  · intro hs
    obtain ⟨m, hm⟩ := h hs
    exact ⟨m, hfg.next.subset hm⟩
  · exact ⟨h.1.mono hfg, h.2.mono hfg⟩
  · exact ⟨h.1.mono hfg, h.2.mono hfg⟩
  · trivial

/-- Of the points of a pattern, some are pending, and the others that have been passed are done. -/
structure Settled (p : Place) (root : List (Nat × List Node)) (pending : List Nat) (f : Front) :
    Prop where
  /-- What has been passed is done. -/
  done : ∀ k q, (k, q) ∈ root → f.passed.testBit k = true → k ∉ pending → Done p f q
  /-- What is pending has been passed. -/
  pending : ∀ k ∈ pending, f.passed.testBit k = true

theorem settled_empty (p : Place) (root : List (Nat × List Node)) : Settled p root [] {} :=
  ⟨by simp, by simp⟩

/-- The points of a thread are points of a pattern. -/
def Thread.Placed (root : List (Nat × List Node)) (t : Thread) : Prop := pointsOf t.rest ⊆ root

/-- Going on keeps a front settled, or finds a match.  If it finds none, the patterns have been
covered. -/
structure Advances (p : Place) (root : List (Nat × List Node)) (pending : List Nat)
    (C : Front → Prop) (goOn : Front → Front) : Prop where
  /-- Nothing is lost. -/
  grows : ∀ f : Front, f.Grows (goOn f)
  /-- The threads stay in the pattern. -/
  places : ∀ f : Front, (∀ t ∈ f.next, t.Placed root) → ∀ t ∈ (goOn f).next, t.Placed root
  /-- Nothing is missed. -/
  settles : ∀ f, Settled p root pending f → (goOn f).found.isSome = true ∨
    Settled p root pending (goOn f) ∧ C (goOn f)

namespace Advances

variable {C D : Front → Prop} {first second : Front → Front}

theorem comp (hfirst : Advances p root S C first) (hsecond : Advances p root S D second)
    (hC : ∀ f g : Front, f.Grows g → C f → C g) :
    Advances p root S (fun f => C f ∧ D f) fun f => second (first f) where
  grows f := (hfirst.grows f).trans (hsecond.grows _)
  places f hf := hsecond.places _ (hfirst.places f hf)
  settles f hf := by
    have hgrows := hsecond.grows (first f)
    rcases hfirst.settles f hf with hfound | ⟨hf, hc⟩
    · obtain ⟨m, hm⟩ := Option.isSome_iff_exists.1 hfound
      exact .inl (by rw [hgrows.found m hm]; rfl)
    · rcases hsecond.settles _ hf with hfound | ⟨hf, hd⟩
      · exact .inl hfound
      · exact .inr ⟨hf, hC _ _ hgrows hc, hd⟩

theorem imp (h : Advances p root S C first) (hCD : ∀ f, C f → D f) : Advances p root S D first :=
  ⟨h.grows, h.places, fun f hf => (h.settles f hf).imp_right fun hc => ⟨hc.1, hCD _ hc.2⟩⟩

/-- A point is pending while it is explored, and then it is done. -/
theorem pass (hroot : ∀ k q q', (k, q) ∈ root → (k, q') ∈ root → q = q') {k : Nat} {q : List Node}
    (hq : (k, q) ∈ root) (h : Advances p root (k :: S) (Done p · q) first) :
    Advances p root S (fun f => f.passed.testBit k = true) (Front.pass k first) where
  grows f := by
    unfold Front.pass
    split
    · exact .refl f
    · exact (f.grows_passed k).trans (h.grows _)
  places f hf := by
    unfold Front.pass
    split
    · exact hf
    · exact h.places _ hf
  settles f hf := by
    unfold Front.pass
    split
    · next hcond =>
      rcases (Bool.or_eq_true _ _).mp hcond with hfound | hpassed
      · exact .inl hfound
      · exact .inr ⟨hf, hpassed⟩
    · have hpassed := f.grows_passed k
      have hself : ({ f with passed := f.passed ||| 1 <<< k } : Front).passed.testBit k = true :=
        (testBit_pass _ _ _).2 (.inr rfl)
      have hpending : Settled p root (k :: S) { f with passed := f.passed ||| 1 <<< k } := by
        refine ⟨fun j q' hj hbit hnot => ?_, List.forall_mem_cons.2 ⟨hself, fun j hj => ?_⟩⟩
        · obtain ⟨hne, hnot⟩ := not_or.1 (mt List.mem_cons.2 hnot)
          have hbit := ((testBit_pass _ _ _).1 hbit).resolve_right hne
          exact (hf.done j q' hj hbit hnot).mono hpassed
        · exact hpassed.passed j (hf.pending j hj)
      have hgrows := h.grows { f with passed := f.passed ||| 1 <<< k }
      rcases h.settles _ hpending with hfound | ⟨hsettled, hdone⟩
      · exact .inl hfound
      · refine .inr ⟨⟨fun j q' hj hbit hnot => ?_, fun j hj => ?_⟩, hgrows.passed k hself⟩
        · by_cases hjk : j = k
          · subst hjk
            rwa [hroot j q' q hj hq]
          · exact hsettled.done j q' hj hbit (by simp [hjk, hnot])
        · exact hsettled.pending j (List.mem_cons_of_mem _ hj)

theorem finish (m : Marks) : Advances p root S (fun _ => False) (Front.finish m) where
  grows f := by
    unfold Front.finish
    split
    · exact .refl f
    · next hnone =>
      refine ⟨fun _ hk => hk, List.suffix_rfl, fun found hfound => ?_⟩
      rw [hfound] at hnone
      exact absurd rfl hnone
  places f hf := by
    unfold Front.finish
    split <;> exact hf
  settles f _ := by
    unfold Front.finish
    split
    · next hfound => exact .inl hfound
    · exact .inl rfl

/-- A thread has taken the next character, if the point takes it. -/
theorem push {rest : List Node} (hrest : pointsOf rest ⊆ root) (k : Nat) (s : CharSet) (m : Marks) :
    Advances p root S (Done p · (.one k s :: rest)) fun f =>
      if p.after.any s.contains then f.push ⟨rest, m⟩ else f := by
  by_cases hs : p.after.any s.contains = true
  · simp only [if_pos hs]
    have hgrows : ∀ f : Front, f.Grows (f.push ⟨rest, m⟩) := fun f =>
      ⟨fun _ hk => hk, List.suffix_cons _ _, fun _ hm => hm⟩
    refine ⟨hgrows, fun f hf => List.forall_mem_cons.2 ⟨hrest, hf⟩,
      fun f hf => .inr ⟨?_, fun _ => ?_⟩⟩
    · exact ⟨fun j q hj hbit hnot => (hf.done j q hj hbit hnot).mono (hgrows f), hf.pending⟩
    · exact ⟨m, List.mem_cons_self⟩
  · simp only [if_neg hs]
    exact ⟨.refl, fun _ hf => hf, fun f hf => .inr ⟨hf, fun h => absurd h hs⟩⟩

end Advances

/-! ## Going through a pattern -/

/-- The point of a loop, with the points of a round and of what follows it. -/
theorem points_loop {k : Nat} {greedy : Bool} {r : Node} {rest : List Node}
    (h : pointsOf (.loop k greedy r :: rest) ⊆ root) :
    (k, .loop k greedy r :: rest) ∈ root ∧ pointsOf (r :: .loop k greedy r :: rest) ⊆ root := by
  obtain ⟨hk, hparts⟩ := List.cons_subset.1 h
  exact ⟨hk, List.append_subset.2 ⟨(List.append_subset.1 hparts).1, h⟩⟩

/-- After a round that has taken nothing there is nothing new. -/
theorem advances_again {k : Nat} (hk : k ∈ S) {greedy : Bool} {r : Node} {rest : List Node} :
    Advances p root S (Covered p · (.loop k greedy r :: rest)) id :=
  ⟨.refl, fun _ hf => hf, fun _ hf => .inr ⟨hf, hf.pending k hk⟩⟩

section Explore

variable (hroot : ∀ k q q', (k, q) ∈ root → (k, q') ∈ root → q = q')

include hroot

/-- At the point of a loop there may be another round, and what follows the loop. -/
theorem advances_loop {k : Nat} {greedy : Bool} {r : Node} {rest : List Node}
    (hk : (k, .loop k greedy r :: rest) ∈ root) {again goOn : Front → Front}
    (hagain : Advances p root (k :: S) (Covered p · (r :: .loop k greedy r :: rest)) again)
    (hgo : Advances p root (k :: S) (Covered p · rest) goOn) :
    Advances p root S (Covered p · (.loop k greedy r :: rest))
      (if greedy then Front.branch k again goOn else Front.branch k goOn again) := by
  split
  · exact .pass hroot hk (hagain.comp hgo fun _ _ hfg => Covered.mono hfg)
  · refine .pass hroot hk ((hgo.comp hagain fun _ _ hfg => Covered.mono hfg).imp fun f h => ?_)
    exact ⟨h.2, h.1⟩

/-- Going through a pattern covers it if what follows covers what comes after it. -/
theorem explore_advances (n : Node) {rest : List Node} (hn : pointsOf (n :: rest) ⊆ root)
    {goOn : Marks → Front → Front}
    (hgo : ∀ T m, S ⊆ T → Advances p root T (Covered p · rest) (goOn m)) (m : Marks) :
    Advances p root S (Covered p · (n :: rest)) (n.explore p rest goOn m) := by
  induction n generalizing rest goOn S m with
  | empty => exact hgo S m fun _ h => h
  | one k s =>
      obtain ⟨hk, hrest⟩ := List.cons_subset.1 hn
      exact .pass hroot hk (.push hrest k s m)
  | look l =>
      rw [Node.explore]
      split
      · exact (hgo S m fun _ h => h).imp fun f h _ => h
      · next hl => exact ⟨.refl, fun _ hf => hf, fun f hf => .inr ⟨hf, fun h => absurd h hl⟩⟩
  | mark slot => exact hgo S _ fun _ h => h
  | seq a b iha ihb =>
      have hpoints : pointsOf (.seq a b :: rest) = pointsOf (a :: b :: rest) :=
        List.append_assoc _ _ _
      rw [hpoints] at hn
      have hb := (List.append_subset.1 hn).2
      refine iha hn (fun T m hT => ?_) m
      exact ihb hb (fun U m hU => hgo U m fun _ h => hU (hT h)) m
  | alt k a b iha ihb =>
      obtain ⟨hk, hparts⟩ := List.cons_subset.1 hn
      obtain ⟨hab, hrest⟩ := List.append_subset.1 hparts
      obtain ⟨ha, hb⟩ := List.append_subset.1 hab
      have hlater : ∀ T m, k :: S ⊆ T → Advances p root T (Covered p · rest) (goOn m) :=
        fun T m hT => hgo T m fun _ h => hT (List.mem_cons_of_mem _ h)
      have hfirst := iha (List.append_subset.2 ⟨ha, hrest⟩) hlater m
      have hsecond := ihb (List.append_subset.2 ⟨hb, hrest⟩) hlater m
      exact .pass hroot hk (hfirst.comp hsecond fun _ _ hfg => Covered.mono hfg)
  | loop k greedy r ih =>
      obtain ⟨hk, hround⟩ := points_loop hn
      refine advances_loop hroot hk (ih hround (fun T _ hT => ?_) m)
        (hgo _ m fun _ h => List.mem_cons_of_mem _ h)
      exact advances_again (hT List.mem_cons_self)
  | rounds k greedy r ih =>
      obtain ⟨hk, hround⟩ := points_loop hn
      refine ih hround (fun T m hT => ?_) m
      refine advances_loop hroot hk (ih hround (fun U _ hU => ?_) m)
        (hgo _ m fun _ h => List.mem_cons_of_mem _ (hT h))
      exact advances_again (hU List.mem_cons_self)

theorem exploreAll_advances {ns : List Node} (hns : pointsOf ns ⊆ root) (m : Marks) :
    Advances p root S (Covered p · ns) (exploreAll p ns m) := by
  induction ns generalizing S m with
  | nil => exact .finish m
  | cons n ns ih =>
      exact explore_advances hroot n hns
        (fun _ m _ => ih (fun _ h => hns (List.mem_append_right _ h)) m) m

/-- What comes of threads at a place is a match, or it is all that can come of them. -/
theorem threads_advance {threads : List Thread} (h : ∀ t ∈ threads, t.Placed root) :
    Advances p root [] (fun f => ∀ t ∈ threads, Covered p f t.rest)
      fun f => threads.foldl (fun f t => exploreAll p t.rest t.marks f) f := by
  induction threads with
  | nil => exact ⟨.refl, fun _ hf => hf, fun f hf => .inr ⟨hf, by simp⟩⟩
  | cons t ts ih =>
      obtain ⟨ht, hts⟩ := List.forall_mem_cons.1 h
      have hfirst := exploreAll_advances (p := p) (S := []) hroot ht t.marks
      exact (hfirst.comp (ih hts) fun _ _ hfg => Covered.mono hfg).imp
        fun f hf => List.forall_mem_cons.2 hf

theorem frontOf_placed {threads : List Thread} (h : ∀ t ∈ threads, t.Placed root) :
    ∀ t ∈ (frontOf p threads).next, t.Placed root :=
  (threads_advance hroot h).places {} (by simp)

/-- More threads leave what has come of the others. -/
theorem frontOf_grows {threads more : List Thread} (h : ∀ t ∈ more, t.Placed root) :
    (frontOf p threads).Grows (frontOf p (threads ++ more)) := by
  rw [frontOf, frontOf, List.foldl_append]
  exact (threads_advance hroot h).grows _

end Explore

/-! ## Paths that can be followed -/

/-- A path of the patterns can be followed. -/
def Leads (s : Spot) (ns : List Node) : Prop := ∃ w ∈ pathsOf ns, (s.follow? w).isSome = true

/-- A thread of a front leads on from the next spot. -/
def Front.LeadsOn (f : Front) (s : Spot) : Prop :=
  ∃ c s', s.step? (.take c) = some s' ∧ ∃ t ∈ f.next, Leads s' t.rest

section Settled

variable {s : Spot} (hf : Settled s.place root [] f)

include hf

/-- Along a path a thread leads on, or the path takes nothing and what follows has been covered. -/
theorem Settled.along_loop {k : Nat} {greedy : Bool} {r : Node} {rest : List Node}
    (hn : pointsOf (.loop k greedy r :: rest) ⊆ root)
    (hround : pointsOf (r :: .loop k greedy r :: rest) ⊆ root →
      Covered s.place f (r :: .loop k greedy r :: rest) → ∀ {w u}, w ∈ r.paths →
        u ∈ pathsOf (.loop k greedy r :: rest) → (s.follow? (w ++ u)).isSome = true →
          f.LeadsOn s ∨ Covered s.place f (.loop k greedy r :: rest) ∧ s.follow? w = some s)
    (hcovered : Covered s.place f (.loop k greedy r :: rest)) {w u : List Step}
    (hw : w ∈ r.paths∗) (hu : u ∈ pathsOf rest) (hfollow : (s.follow? (w ++ u)).isSome = true) :
    f.LeadsOn s ∨ Covered s.place f rest ∧ s.follow? w = some s := by
  obtain ⟨hk, hr⟩ := points_loop hn
  obtain ⟨hagain, hleave⟩ : Covered s.place f (r :: .loop k greedy r :: rest) ∧
      Covered s.place f rest := hf.done k _ hk hcovered (by simp)
  obtain ⟨ws, rfl, hws⟩ := Language.mem_kstar.1 hw
  clear hw
  induction ws with
  | nil => exact .inr ⟨hleave, rfl⟩
  | cons w ws ih =>
      obtain ⟨hw, hws⟩ := List.forall_mem_cons.1 hws
      have hlater : ws.flatten ∈ r.paths∗ := Language.mem_kstar.2 ⟨ws, rfl, hws⟩
      have hrest : ws.flatten ++ u ∈ pathsOf (.loop k greedy r :: rest) := by
        rw [pathsOf_cons]
        exact Language.append_mem_mul hlater hu
      rw [List.flatten_cons, List.append_assoc] at hfollow
      rcases hround hr hagain hw hrest hfollow with hon | ⟨-, hstay⟩
      · exact .inl hon
      · rw [Spot.follow?_append, hstay, Option.bind_some] at hfollow
        rw [List.flatten_cons, Spot.follow?_append, hstay, Option.bind_some]
        exact ih hws hfollow

theorem Settled.along (n : Node) {rest : List Node} (hn : pointsOf (n :: rest) ⊆ root)
    (hcovered : Covered s.place f (n :: rest)) {w u : List Step} (hw : w ∈ n.paths)
    (hu : u ∈ pathsOf rest) (hfollow : (s.follow? (w ++ u)).isSome = true) :
    f.LeadsOn s ∨ Covered s.place f rest ∧ s.follow? w = some s := by
  induction n generalizing rest w u with
  | empty =>
      obtain rfl : w = [] := hw
      exact .inr ⟨hcovered, rfl⟩
  | one k set =>
      obtain ⟨c, hc, rfl⟩ := hw
      obtain ⟨s'', hs⟩ := Option.isSome_iff_exists.1 hfollow
      obtain ⟨s', hstep, hrest⟩ := Option.bind_eq_some_iff.1 hs
      have hahead : s.ahead.head? = some c := by
        rw [Spot.step?] at hstep
        split at hstep
        · assumption
        · cases hstep
      have hdone := hf.done k _ (hn List.mem_cons_self) hcovered (by simp)
      obtain ⟨m, hm⟩ := hdone (by rw [Spot.place, hahead]; exact hc)
      exact .inl ⟨c, s', hstep, _, hm, u, hu, Option.isSome_iff_exists.2 ⟨s'', hrest⟩⟩
  | look l =>
      obtain rfl : w = [.check l] := hw
      have hl : l.holds s.place = true := by
        rw [List.singleton_append, Spot.follow?, Spot.step?] at hfollow
        split at hfollow
        · assumption
        · cases hfollow
      refine .inr ⟨hcovered hl, ?_⟩
      rw [Spot.follow?, Spot.step?, if_pos hl]
      rfl
  | mark slot =>
      obtain rfl : w = [.note slot] := hw
      exact .inr ⟨hcovered, rfl⟩
  | seq a b iha ihb =>
      have hpoints : pointsOf (.seq a b :: rest) = pointsOf (a :: b :: rest) :=
        List.append_assoc _ _ _
      rw [hpoints] at hn
      obtain ⟨wa, ha, wb, hb, rfl⟩ := Language.mem_mul.1 hw
      have hlater : wb ++ u ∈ pathsOf (b :: rest) := by
        rw [pathsOf_cons]
        exact Language.append_mem_mul hb hu
      rw [List.append_assoc] at hfollow
      rcases iha hn hcovered ha hlater hfollow with hon | ⟨hcovered, hstay⟩
      · exact .inl hon
      · rw [Spot.follow?_append, hstay, Option.bind_some] at hfollow
        rw [Spot.follow?_append, hstay, Option.bind_some]
        exact ihb (List.append_subset.1 hn).2 hcovered hb hu hfollow
  | alt k a b iha ihb =>
      obtain ⟨hk, hparts⟩ := List.cons_subset.1 hn
      obtain ⟨hab, hrest⟩ := List.append_subset.1 hparts
      obtain ⟨ha, hb⟩ := List.append_subset.1 hab
      obtain ⟨hfirst, hsecond⟩ : Covered s.place f (a :: rest) ∧ Covered s.place f (b :: rest) :=
        hf.done k _ hk hcovered (by simp)
      rcases (Language.mem_add _ _ _).1 hw with hw | hw
      · exact iha (List.append_subset.2 ⟨ha, hrest⟩) hfirst hw hu hfollow
      · exact ihb (List.append_subset.2 ⟨hb, hrest⟩) hsecond hw hu hfollow
  | loop k greedy r ih => exact hf.along_loop hn ih hcovered hw hu hfollow
  | rounds k greedy r ih =>
      obtain ⟨w, hfirst, ws, hws, rfl⟩ := Language.mem_mul.1 hw
      have hlater : ws ++ u ∈ pathsOf (.loop k greedy r :: rest) := by
        rw [pathsOf_cons]
        exact Language.append_mem_mul hws hu
      rw [List.append_assoc] at hfollow
      rcases ih (points_loop hn).2 hcovered hfirst hlater hfollow with hon | ⟨hcovered, hstay⟩
      · exact .inl hon
      · rw [Spot.follow?_append, hstay, Option.bind_some] at hfollow
        rw [Spot.follow?_append, hstay, Option.bind_some]
        exact hf.along_loop hn ih hcovered hws hu hfollow

/-- From what has been covered, a path that can be followed leads on. -/
theorem Settled.leadsOn {ns : List Node} (hns : pointsOf ns ⊆ root)
    (hcovered : Covered s.place f ns) (h : Leads s ns) : f.LeadsOn s := by
  obtain ⟨w, hw, hfollow⟩ := h
  induction ns generalizing w with
  | nil => exact absurd hcovered id
  | cons n ns ih =>
      rw [pathsOf_cons] at hw
      obtain ⟨w, hn, u, hu, rfl⟩ := Language.mem_mul.1 hw
      rcases hf.along n hns hcovered hn hu hfollow with hon | ⟨hcovered, hstay⟩
      · exact hon
      · rw [Spot.follow?_append, hstay, Option.bind_some] at hfollow
        exact ih (List.append_subset.1 hns).2 hcovered u hu hfollow

end Settled

/-- If a path of a thread can be followed, then a match is found, or a thread leads on. -/
theorem frontOf_leads (hroot : ∀ k q q', (k, q) ∈ root → (k, q') ∈ root → q = q') {s : Spot}
    {threads : List Thread} (hplaced : ∀ t ∈ threads, t.Placed root)
    (h : ∃ t ∈ threads, Leads s t.rest) :
    (frontOf s.place threads).found.isSome = true ∨ (frontOf s.place threads).LeadsOn s := by
  obtain ⟨t, ht, hleads⟩ := h
  refine ((threads_advance hroot hplaced).settles {} (settled_empty _ _)).imp_right ?_
  rintro ⟨hsettled, hcovered⟩
  exact hsettled.leadsOn (hplaced t ht) (hcovered t ht) hleads

end Emend.Pattern
