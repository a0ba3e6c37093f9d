import Mathlib.Order.CompletePartialOrder
import Emend.Proofs.Pattern.Invariants
import Emend.Proofs.Pattern.Language
import Emend.Proofs.Text.Places
/-!
# Threads and what they have read

*Reading.*  A thread has read a part of the text, and if this is continued by what the thread still
wants to read, the whole is a text of the pattern (`Thread.Follows`).  So what is found is a text of
the pattern (`Marks.IsMatch`).

*Order.*  Threads come in the order in which they started, and when a match is found, no thread
is left that started later (`Front.Orderly`).

Both are kept while a thread goes on at a place (`Kept`), so they hold of a search at every place
(`Searching.step`).
-/

namespace Emend.Pattern

open scoped Computability

variable {n : Node} {p : Place} {low : Nat}

/-! ## Conditions and marks of a pattern -/

namespace Node

/-- The conditions of a pattern. -/
def looks : Node → List Look
  | look l => [l]
  | seq a b | alt _ a b => a.looks ++ b.looks
  | loop _ _ r | rounds _ _ r => r.looks
  | empty | one _ _ | mark _ => []

/-- The slots of a pattern's marks. -/
def slots : Node → List Nat
  | mark slot => [slot]
  | seq a b | alt _ a b => a.slots ++ b.slots
  | loop _ _ r | rounds _ _ r => r.slots
  | empty | one _ _ | look _ => []

/-- A part of a pattern has its conditions from a list, and it does not note where a match
starts. -/
structure PartOf (ls : List Look) (n : Node) : Prop where
  /-- The conditions are in the list. -/
  looks : ∀ l ∈ n.looks, l ∈ ls
  /-- The start of a match is not noted. -/
  slots : 0 ∉ n.slots

namespace PartOf

variable {ls : List Look} {a b : Node} {number : Nat} {greedy : Bool}

theorem of_append {c : Node} (hlooks : c.looks = a.looks ++ b.looks)
    (hslots : c.slots = a.slots ++ b.slots) (h : c.PartOf ls) : a.PartOf ls ∧ b.PartOf ls := by
  obtain ⟨hla, hlb⟩ := List.forall_mem_append.1 (hlooks ▸ h.looks)
  obtain ⟨hsa, hsb⟩ := not_or.1 (mt List.mem_append.2 (hslots ▸ h.slots))
  exact ⟨⟨hla, hsa⟩, ⟨hlb, hsb⟩⟩

theorem of_seq (h : (seq a b).PartOf ls) : a.PartOf ls ∧ b.PartOf ls := h.of_append rfl rfl

theorem of_alt (h : (alt number a b).PartOf ls) : a.PartOf ls ∧ b.PartOf ls := h.of_append rfl rfl

theorem of_loop (h : (loop number greedy a).PartOf ls) : a.PartOf ls := ⟨h.looks, h.slots⟩

theorem of_rounds (h : (rounds number greedy a).PartOf ls) :
    a.PartOf ls ∧ (loop number greedy a).PartOf ls := ⟨⟨h.looks, h.slots⟩, ⟨h.looks, h.slots⟩⟩

end PartOf

end Node

/-! ## Going through a pattern -/

/-- What a thread that started at `start` is still to match closes the match, and until then it
reads what is in `wanted`. -/
inductive Wants (p : Place) (ls : List Look) (wanted : Language Char) (start : Nat) :
    Marks → List Node → Prop where
  /-- The patterns read what is wanted. -/
  | reads {m : Marks} {ns : List Node} (hparts : ∀ k ∈ ns, k.PartOf ls)
      (hreads : languageOf ns ≤ wanted) (hstarts : m.lookup 0 = some start) :
      Wants p ls wanted start m (ns ++ [.mark 1])
  /-- The match is closed. -/
  | closed {m : Marks} (hnil : [] ∈ wanted) (hstarts : m.lookup 0 = some start)
      (hstops : m.lookup 1 = some p.offset) : Wants p ls wanted start m []

/-- A property of fronts that is kept while a thread is explored which started at `start`: what it
takes next is `c`, and what it reads from here on has to be in `wanted`. -/
structure Kept (p : Place) (ls : List Look) (wanted : Language Char) (start : Nat)
    (Q : Front → Prop) : Prop where
  /-- A point is passed. -/
  passed : ∀ f k, Q f → Q { f with passed := k }
  /-- A character is taken. -/
  push : ∀ f c ns m, f.found = none → Q f → p.after = some c → (∀ k ∈ ns, k.PartOf ls) →
    (∀ v ∈ languageOf ns, c :: v ∈ wanted) → m.lookup 0 = some start →
      Q (f.push ⟨ns ++ [.mark 1], m⟩)
  /-- A match is found. -/
  finish : ∀ f m, f.found = none → Q f → [] ∈ wanted → m.lookup 0 = some start →
    m.lookup 1 = some p.offset → Q { f with found := some m }

section Goes

variable {ls : List Look} {wanted : Language Char} {start : Nat} {m m' : Marks} {ns ns' : List Node}

/-- What comes later is not touched as long as something comes before it. -/
theorem Goes.cut {k : Node} {later : List Node} (h : Goes p m (k :: (ns ++ later)) m' ns') :
    ∃ front, ns' = front ++ later ∧ Goes p m (k :: ns) m' front := by
  cases h with
  | empty => exact ⟨_, rfl, .empty⟩
  | look hl => exact ⟨_, rfl, .look hl⟩
  | mark => exact ⟨_, rfl, .mark⟩
  | seq => exact ⟨_ :: _ :: ns, rfl, .seq⟩
  | first => exact ⟨_ :: ns, rfl, .first⟩
  | second => exact ⟨_ :: ns, rfl, .second⟩
  | again => exact ⟨_ :: _ :: ns, rfl, .again⟩
  | leave => exact ⟨_, rfl, .leave⟩
  | rounds => exact ⟨_ :: _ :: ns, rfl, .rounds⟩

/-- A thread that goes on reads what it would have read. -/
theorem Goes.languageOf_le (h : Goes p m ns m' ns') : languageOf ns' ≤ languageOf ns := by
  cases h with
  | empty | look | mark => exact (one_mul (languageOf ns')).ge
  | seq =>
      rw [languageOf_cons, languageOf_cons, languageOf_cons, ← mul_assoc]
      exact le_rfl
  | first =>
      rw [languageOf_cons, languageOf_cons, Node.language, add_mul]
      exact le_sup_left
  | second =>
      rw [languageOf_cons, languageOf_cons, Node.language, add_mul]
      exact le_sup_right
  | again =>
      rw [languageOf_cons, languageOf_cons, ← mul_assoc]
      exact mul_le_mul_left mul_kstar_le_kstar _
  | leave =>
      rw [languageOf_cons]
      exact le_mul_of_one_le_left' one_le_kstar
  | rounds =>
      rw [languageOf_cons, languageOf_cons, languageOf_cons, ← mul_assoc]
      exact le_rfl

theorem Goes.parts (h : Goes p m ns m' ns') (hparts : ∀ k ∈ ns, k.PartOf ls) :
    ∀ k ∈ ns', k.PartOf ls := by
  cases h with
  | empty | look | mark | leave => exact (List.forall_mem_cons.1 hparts).2
  | seq =>
      obtain ⟨hseq, hrest⟩ := List.forall_mem_cons.1 hparts
      exact List.forall_mem_cons.2 ⟨hseq.of_seq.1, List.forall_mem_cons.2 ⟨hseq.of_seq.2, hrest⟩⟩
  | first =>
      obtain ⟨halt, hrest⟩ := List.forall_mem_cons.1 hparts
      exact List.forall_mem_cons.2 ⟨halt.of_alt.1, hrest⟩
  | second =>
      obtain ⟨halt, hrest⟩ := List.forall_mem_cons.1 hparts
      exact List.forall_mem_cons.2 ⟨halt.of_alt.2, hrest⟩
  | again => exact List.forall_mem_cons.2 ⟨(hparts _ List.mem_cons_self).of_loop, hparts⟩
  | rounds =>
      obtain ⟨hrounds, hrest⟩ := List.forall_mem_cons.1 hparts
      obtain ⟨hround, hloop⟩ := hrounds.of_rounds
      exact List.forall_mem_cons.2 ⟨hround, List.forall_mem_cons.2 ⟨hloop, hrest⟩⟩

/-- Where a match starts is not noted again. -/
theorem Goes.starts (h : Goes p m ns m' ns') (hparts : ∀ k ∈ ns, k.PartOf ls) :
    m'.lookup 0 = m.lookup 0 := by
  cases h with
  | @mark _ slot =>
      have hslot : (0 == slot) = false := by
        refine beq_false_of_ne fun h => (hparts _ List.mem_cons_self).slots ?_
        simp [Node.slots, h]
      rw [List.lookup_cons, hslot]
  | empty | look | seq | first | second | again | leave | rounds => rfl

theorem Wants.step (hstep : Goes p m ns m' ns') (h : Wants p ls wanted start m ns) :
    Wants p ls wanted start m' ns' := by
  cases h with
  | closed => cases hstep
  | @reads ns hparts hreads hstarts =>
      cases ns with
      | nil =>
          cases hstep
          exact .closed (hreads rfl) hstarts List.lookup_cons_self
      | cons k ns =>
          obtain ⟨front, rfl, hgoes⟩ := hstep.cut
          exact .reads (hgoes.parts hparts) (hgoes.languageOf_le.trans hreads)
            ((hgoes.starts hparts).trans hstarts)

end Goes

/-- What is kept while a thread is explored is kept by the steps of this thread. -/
theorem Kept.keeps {ls : List Look} {wanted : Language Char} {start : Nat} {Q : Front → Prop}
    (hQ : Kept p ls wanted start Q) : Front.Keeps p (Wants p ls wanted start) Q where
  step := Wants.step
  passed := hQ.passed
  push f m rest k set c hfound hf hc hset hm := by
    generalize hns : Node.one k set :: rest = ns at hm
    cases hm with
    | closed => cases hns
    | @reads ns hparts hreads hstarts =>
        cases ns with
        | nil => cases hns
        | cons k ns =>
            cases hns
            rw [languageOf_cons] at hreads
            have hone : [c] ∈ charTexts set := ⟨c, hset, rfl⟩
            exact hQ.push f c ns m hfound hf hc (List.forall_mem_cons.1 hparts).2
              (fun v hv => hreads (Language.append_mem_mul hone hv)) hstarts
  finish f m hfound hf hm := by
    generalize hns : ([] : List Node) = ns at hm
    cases hm with
    | closed hnil hstarts hstops => exact hQ.finish f m hfound hf hnil hstarts hstops
    | reads => exact absurd hns.symm (List.append_ne_nil_of_right_ne_nil _ (List.cons_ne_nil _ _))

/-! ## Threads in order -/

/-- Where a match starts. -/
def Marks.start (m : Marks) : Nat := (m.lookup 0).getD 0

theorem Marks.start_eq {m : Marks} {k : Nat} (h : m.lookup 0 = some k) : m.start = k := by
  rw [Marks.start, h, Option.getD_some]

/-- A match ends with a text, and it is a text of the pattern.  It starts at `low` or later. -/
def Marks.IsMatch (n : Node) (low : Nat) (head : Text) (m : Marks) : Prop :=
  ∃ front u, head = front ++ u ∧ low ≤ Text.size front ∧ u ∈ n.language ∧
    m.lookup 0 = some (Text.size front) ∧ m.lookup 1 = some (Text.size head)

/-- A thread has read the end of a text, and with this it is on the way to a text of the pattern.
It started at `low` or later. -/
def Thread.Follows (n : Node) (low : Nat) (head : Text) (t : Thread) : Prop :=
  ∃ front u ns, head = front ++ u ∧ low ≤ Text.size front ∧ t.rest = ns ++ [.mark 1] ∧
    (∀ k ∈ ns, k.PartOf n.looks) ∧ (∀ v ∈ languageOf ns, u ++ v ∈ n.language) ∧
      t.marks.lookup 0 = some (Text.size front)

/-- A front has threads in the order in which they started, the last one first.  None started
after `start`, or after the match that has been found. -/
structure Front.Orderly (n : Node) (low : Nat) (head : Text) (p : Place) (start : Nat) (f : Front) :
    Prop where
  /-- The threads have taken the next character. -/
  next : ∀ t ∈ f.next, ∃ c, p.after = some c ∧ t.Follows n low (head ++ [c])
  /-- The threads are in order. -/
  sorted : f.next.Pairwise fun s t => t.marks.start ≤ s.marks.start
  /-- The threads started early if no match has been found. -/
  early : f.found = none → ∀ t ∈ f.next, t.marks.start ≤ start
  /-- A match that has been found ends here; it started early, and the threads not later than it. -/
  found : ∀ m, f.found = some m →
    m.IsMatch n low head ∧ m.start ≤ start ∧ ∀ t ∈ f.next, t.marks.start ≤ m.start

theorem Front.orderly_empty (n : Node) (low : Nat) (head : Text) (p : Place) (start : Nat) :
    Front.Orderly n low head p start {} :=
  ⟨by simp, .nil, by simp, by simp⟩

theorem Front.Orderly.mono {head : Text} {f : Front} {a b : Nat} (h : f.Orderly n low head p a)
    (hab : a ≤ b) : f.Orderly n low head p b :=
  ⟨h.next, h.sorted, fun hfound t ht => Nat.le_trans (h.early hfound t ht) hab, fun m hm =>
    let ⟨hmatch, hstart, hle⟩ := h.found m hm
    ⟨hmatch, Nat.le_trans hstart hab, hle⟩⟩

/-- A thread that started where all that came before it had started keeps the front in order. -/
theorem kept_orderly {head front u : Text} (hp : p.offset = Text.size head)
    (hhead : head = front ++ u) (hlow : low ≤ Text.size front) :
    Kept p n.looks {v | u ++ v ∈ n.language} (Text.size front)
      (Front.Orderly n low head p (Text.size front)) where
  passed f k hf := ⟨hf.next, hf.sorted, hf.early, hf.found⟩
  push f c ns m hfound hf hafter hns hwanted hm := by
    have hstart : m.start = Text.size front := Marks.start_eq hm
    refine ⟨List.forall_mem_cons.2
        ⟨⟨c, hafter, front, u ++ [c], ns, ?_, hlow, rfl, hns, ?_, hm⟩, hf.next⟩,
      List.pairwise_cons.2 ⟨fun t ht => ?_, hf.sorted⟩, fun _ => ?_, fun found hfound' => ?_⟩
    · rw [hhead, List.append_assoc]
    · intro v hv
      rw [List.append_assoc]
      exact hwanted v hv
    · exact hstart ▸ hf.early hfound t ht
    · exact List.forall_mem_cons.2 ⟨Nat.le_of_eq hstart, hf.early hfound⟩
    · rw [Front.push, hfound] at hfound'
      cases hfound'
  finish f m hfound hf hnil hm hstop := by
    refine ⟨hf.next, hf.sorted, by simp, fun found hfound' => ?_⟩
    cases hfound'
    rw [hp] at hstop
    refine ⟨⟨front, u, hhead, hlow, ?_, hm, hstop⟩, Nat.le_of_eq (Marks.start_eq hm),
      fun t ht => ?_⟩
    · have hread : u ++ [] ∈ n.language := hnil
      rwa [List.append_nil] at hread
    · rw [Marks.start_eq hm]
      exact hf.early hfound t ht

theorem frontOf_orderly {head : Text} (hp : p.offset = Text.size head) {threads : List Thread}
    (hfollows : ∀ t ∈ threads, t.Follows n low head)
    (hsorted : threads.Pairwise fun s t => s.marks.start ≤ t.marks.start) {last : Nat}
    (hlast : ∀ t ∈ threads, t.marks.start ≤ last) :
    (frontOf p threads).Orderly n low head p last := by
  suffices h : ∀ (f : Front) (first : Nat), f.Orderly n low head p first → first ≤ last →
      (∀ t ∈ threads, first ≤ t.marks.start) →
      (threads.foldl (fun f t => exploreAll p t.rest t.marks f) f).Orderly n low head p last from
    h {} 0 (Front.orderly_empty n low head p 0) (Nat.zero_le _) fun _ _ => Nat.zero_le _
  induction threads with
  | nil => exact fun f first hf hfirst _ => hf.mono hfirst
  | cons t ts ih =>
      intro f first hf _ hle
      obtain ⟨ht, hts⟩ := List.forall_mem_cons.1 hfollows
      obtain ⟨hfirst, hrest⟩ := List.pairwise_cons.1 hsorted
      obtain ⟨hend, hends⟩ := List.forall_mem_cons.1 hlast
      obtain ⟨front, u, ns, hhead, hlow, hns, hparts, hwanted, hm⟩ := ht
      have hstart : t.marks.start = Text.size front := Marks.start_eq hm
      have hexplored : (exploreAll p t.rest t.marks f).Orderly n low head p (Text.size front) := by
        rw [hns]
        refine (kept_orderly hp hhead hlow).keeps.exploreAll _ t.marks f
          (.reads hparts hwanted hm) (hf.mono ?_)
        exact hstart ▸ hle t List.mem_cons_self
      exact ih hts hrest hends _ _ hexplored (hstart ▸ hend) (hstart ▸ hfirst)

/-! ## Searching -/

/-- What is known of a search that has gone through a text from `low` on. -/
structure Searching (n : Node) (low : Nat) (head : Text) (best : Option Marks)
    (threads : List Thread) : Prop where
  /-- The search has started. -/
  started : low ≤ Text.size head
  /-- The threads have read what comes last. -/
  follows : ∀ t ∈ threads, t.Follows n low head
  /-- They are in order. -/
  sorted : threads.Pairwise fun s t => s.marks.start ≤ t.marks.start
  /-- No thread started after what has been found. -/
  early : ∀ m, best = some m → ∀ t ∈ threads, t.marks.start ≤ m.start

theorem searching_start (n : Node) (head : Text) : Searching n (Text.size head) head none [] :=
  ⟨Nat.le_refl _, by simp, .nil, by simp⟩

/-- The thread that starts at a place. -/
def starter (n : Node) (offset : Nat) : Thread := ⟨[n, .mark 1], [(0, offset)]⟩

/-- The threads after which one that starts here has joined, which has noted this already, unless
there is a match. -/
def joined (n : Node) (offset : Nat) (best : Option Marks) (threads : List Thread) : List Thread :=
  if best.isSome then threads else threads ++ [starter n offset]

/-- A thread that joins does what one does that has noted already where it starts. -/
theorem frontOf_join (n : Node) (p : Place) (best : Option Marks) (threads : List Thread) :
    frontOf p (join n best threads) = frontOf p (joined n p.offset best threads) := by
  unfold join joined
  split
  · rfl
  · rw [frontOf, frontOf, List.foldl_append, List.foldl_append]
    rfl

/-- A thread started no later than where it is. -/
theorem Thread.Follows.start_le {head : Text} {t : Thread} (h : t.Follows n low head) :
    t.marks.start ≤ Text.size head := by
  obtain ⟨front, u, -, hhead, -, -, -, -, hm⟩ := h
  rw [Marks.start_eq hm, hhead, Text.size_append]
  exact Nat.le_add_right _ _

namespace Searching

variable {head : Text} {best : Option Marks} {threads : List Thread}
  (hslots : 0 ∉ n.slots) (h : Searching n low head best threads)

include hslots h

/-- The threads that have joined have read what comes last, and they are in order. -/
theorem joined_follows : (∀ t ∈ joined n (Text.size head) best threads, t.Follows n low head) ∧
    (joined n (Text.size head) best threads).Pairwise fun s t =>
      s.marks.start ≤ t.marks.start := by
  unfold joined
  split
  · exact ⟨h.follows, h.sorted⟩
  · have hstarter : (starter n (Text.size head)).Follows n low head := by
      refine ⟨head, [], [n], (List.append_nil _).symm, h.started, rfl, ?_, fun v hv => ?_, rfl⟩
      · exact List.forall_mem_cons.2 ⟨⟨fun _ hl => hl, hslots⟩, by simp⟩
      · rw [languageOf_cons, languageOf_nil, mul_one] at hv
        exact hv
    refine ⟨List.forall_mem_append.2 ⟨h.follows, List.forall_mem_singleton.2 hstarter⟩, ?_⟩
    refine List.pairwise_append.2 ⟨h.sorted, List.pairwise_singleton _ _, fun s hs t ht => ?_⟩
    rw [List.mem_singleton.1 ht]
    exact (h.follows s hs).start_le

theorem frontOf_join_orderly (hp : p.offset = Text.size head) :
    ∃ last, (∀ m, best = some m → last ≤ m.start) ∧
      (frontOf p (join n best threads)).Orderly n low head p last := by
  obtain ⟨hfollows, hsorted⟩ := h.joined_follows hslots
  rw [frontOf_join, hp]
  cases hbest : best with
  | some m =>
      subst hbest
      exact ⟨m.start, fun _ hm => Option.some.inj hm ▸ Nat.le_refl _,
        frontOf_orderly hp hfollows hsorted (h.early m rfl)⟩
  | none =>
      subst hbest
      exact ⟨Text.size head, by simp,
        frontOf_orderly hp hfollows hsorted fun t ht => (hfollows t ht).start_le⟩

/-- One place further. -/
theorem step (hp : p.offset = Text.size head) {c : Char} (hc : p.after = some c) :
    Searching n low (head ++ [c]) ((frontOf p (join n best threads)).found.or best)
      (frontOf p (join n best threads)).next.reverse := by
  obtain ⟨last, hlast, hfront⟩ := h.frontOf_join_orderly hslots hp
  refine ⟨?_, fun t ht => ?_, ?_, fun m hm t ht => ?_⟩
  · rw [Text.size_append]
    exact Nat.le_trans h.started (Nat.le_add_right _ _)
  · obtain ⟨d, hd, hfollows⟩ := hfront.next t (List.mem_reverse.1 ht)
    rw [hc] at hd
    cases hd
    exact hfollows
  · exact List.pairwise_reverse.2 hfront.sorted
  · rcases Option.or_eq_some_iff.1 hm with hfound | ⟨hnone, hbest⟩
    · exact (hfront.found m hfound).2.2 t (List.mem_reverse.1 ht)
    · exact Nat.le_trans (hfront.early hnone t (List.mem_reverse.1 ht)) (hlast m hbest)

/-- What is found at a place ends there, and it started no later than what had been found. -/
theorem found (hp : p.offset = Text.size head) {m : Marks}
    (hm : (frontOf p (join n best threads)).found = some m) :
    m.IsMatch n low head ∧ ∀ b, best = some b → m.start ≤ b.start := by
  obtain ⟨last, hlast, hfront⟩ := h.frontOf_join_orderly hslots hp
  obtain ⟨hmatch, hstart, -⟩ := hfront.found m hm
  exact ⟨hmatch, fun b hb => Nat.le_trans hstart (hlast b hb)⟩

end Searching

/-- Once there is a match and no thread is left, nothing else is found. -/
theorem run_done (n : Node) (before : Option Char) (offset : Nat) (m : Marks) (t : Text) :
    run n before offset (some m) [] t = some m := by
  cases t with
  | nil => rfl
  | cons c t => rfl

/-- A search through a text goes on from the place where a part of it ends. -/
theorem run_append {head : Text} {best : Option Marks} {threads : List Thread}
    (hslots : 0 ∉ n.slots) (h : Searching n low head best threads) (before : Option Char)
    (t : Text) :
    ∃ before' best' threads', Searching n low (head ++ t) best' threads' ∧
      ∀ u, run n before (Text.size head) best threads (t ++ u) =
        run n before' (Text.size (head ++ t)) best' threads' u := by
  induction t generalizing head before best threads with
  | nil =>
      refine ⟨before, best, threads, ?_, fun u => ?_⟩
      · rwa [List.append_nil]
      · rw [List.append_nil, List.nil_append]
  | cons c t ih =>
      have hsize := Text.size_concat head c
      have happend := List.append_cons head c t
      by_cases hdone : best.isSome ∧ threads = []
      · obtain ⟨hbest, rfl⟩ := hdone
        obtain ⟨m, rfl⟩ := Option.isSome_iff_exists.1 hbest
        refine ⟨before, some m, [], ⟨?_, by simp, .nil, by simp⟩, fun u => ?_⟩
        · rw [Text.size_append]
          exact Nat.le_trans h.started (Nat.le_add_right _ _)
        · rw [run_done, run_done]
      · have hstep := h.step (p := ⟨before, some c, Text.size head⟩) hslots rfl rfl
        obtain ⟨before', best', threads', hlater, hrun⟩ := ih hstep (some c)
        refine ⟨before', best', threads', happend ▸ hlater, fun u => ?_⟩
        rw [happend, ← hrun u, hsize, List.cons_append, run, if_neg]
        rwa [Bool.and_eq_true, List.isEmpty_iff]

/-- What is found in the rest of a text ends there, and it started no later than what had been found
before. -/
theorem run_isMatch {head : Text} {best : Option Marks} {threads : List Thread}
    (hslots : 0 ∉ n.slots) (h : Searching n low head best threads) (before : Option Char)
    (t : Text) :
    run n before (Text.size head) best threads t = best ∨
      ∃ m u v, run n before (Text.size head) best threads t = some m ∧ t = u ++ v ∧
        m.IsMatch n low (head ++ u) ∧ ∀ b, best = some b → m.start ≤ b.start := by
  induction t generalizing head before best threads with
  | nil =>
      rw [run]
      cases hfound : (frontOf ⟨before, none, Text.size head⟩ (join n best threads)).found with
      | none => exact .inl rfl
      | some m =>
          obtain ⟨hmatch, hstart⟩ := h.found hslots rfl hfound
          exact .inr ⟨m, [], [], rfl, rfl, (List.append_nil head).symm ▸ hmatch, hstart⟩
  | cons c t ih =>
      have hsize := Text.size_concat head c
      rw [run]
      split
      · exact .inl rfl
      · have hstep := h.step (p := ⟨before, some c, Text.size head⟩) hslots rfl rfl
        rw [← hsize]
        rcases ih hstep (some c) with hrun | ⟨m, u, v, hrun, rfl, hmatch, hstart⟩
        · rw [hrun]
          cases hfound : (frontOf ⟨before, some c, Text.size head⟩ (join n best threads)).found with
          | none => exact .inl rfl
          | some m =>
              obtain ⟨hmatch, hstart⟩ := h.found hslots rfl hfound
              exact .inr ⟨m, [], c :: t, rfl, rfl, (List.append_nil head).symm ▸ hmatch, hstart⟩
        · refine .inr ⟨m, c :: u, v, hrun, rfl, ?_, fun b hb => ?_⟩
          · rwa [List.append_assoc] at hmatch
          · cases hfound :
                (frontOf ⟨before, some c, Text.size head⟩ (join n best threads)).found with
            | none => exact hstart b (by rw [hfound]; exact hb)
            | some found =>
                refine Nat.le_trans (hstart found (by rw [hfound]; rfl)) ?_
                exact (h.found hslots rfl hfound).2 b hb

theorem findFrom_isMatch (hslots : 0 ∉ n.slots) {before : Option Char} {head t : Text}
    {found : Found} (h : findFrom n before (Text.size head) t = some found) :
    ∃ u v, t = u ++ v ∧ found.marks.IsMatch n (Text.size head) (head ++ u) := by
  obtain ⟨m, hm, rfl⟩ := Option.map_eq_some_iff.1 h
  rcases run_isMatch hslots (searching_start n head) before t with
    hnone | ⟨m', u, v, hsome, ht, hmatch, -⟩
  · rw [hnone] at hm
    cases hm
  · rw [hsome] at hm
    cases hm
    exact ⟨u, v, ht, hmatch⟩

theorem find_isMatch (hslots : 0 ∉ n.slots) {t : Text} {found : Found} (h : find n t = some found) :
    ∃ u v, t = u ++ v ∧ found.marks.IsMatch n 0 u :=
  @findFrom_isMatch n hslots none [] t found h

end Emend.Pattern
