import Mathlib.Data.List.Forall2
import Emend.Pattern.Search
/-!
# Patterns that go on alike

Two patterns of the same build go on alike at two places if what they have different is not seen
there: conditions that both hold or both fail, and sets that both have the next character or both
lack it (`explore_alike`).  What comes of them agrees in the points that have been passed and in
what has been found, and their threads are related in whatever way the taking of a character keeps.

Patterns whose sets agree on the characters of a text find the same in it (`find_alike`).
-/

namespace Emend.Pattern

variable {S : CharSet → CharSet → Prop} {L : Look → Look → Prop}

/-- Patterns of the same build, with related sets and related conditions. -/
inductive Node.Alike (S : CharSet → CharSet → Prop) (L : Look → Look → Prop) :
    Node → Node → Prop where
  /-- Nothing is like nothing. -/
  | empty : Alike S L .empty .empty
  /-- Characters of related sets. -/
  | one {s s' : CharSet} (number : Nat) (h : S s s') : Alike S L (.one number s) (.one number s')
  /-- Related conditions. -/
  | look {l l' : Look} (h : L l l') : Alike S L (.look l) (.look l')
  /-- Marks. -/
  | mark (slot : Nat) : Alike S L (.mark slot) (.mark slot)
  /-- Rows. -/
  | seq {a b a' b' : Node} (ha : Alike S L a a') (hb : Alike S L b b') :
      Alike S L (.seq a b) (.seq a' b')
  /-- Alternatives. -/
  | alt {a b a' b' : Node} (number : Nat) (ha : Alike S L a a') (hb : Alike S L b b') :
      Alike S L (.alt number a b) (.alt number a' b')
  /-- Loops. -/
  | loop {r r' : Node} (number : Nat) (greedy : Bool) (h : Alike S L r r') :
      Alike S L (.loop number greedy r) (.loop number greedy r')
  /-- Loops with a first round. -/
  | rounds {r r' : Node} (number : Nat) (greedy : Bool) (h : Alike S L r r') :
      Alike S L (.rounds number greedy r) (.rounds number greedy r')

/-- Threads with the same marks and with patterns that are alike. -/
structure Thread.Alike (S : CharSet → CharSet → Prop) (L : Look → Look → Prop) (t u : Thread) :
    Prop where
  /-- The patterns are alike. -/
  rest : List.Forall₂ (Node.Alike S L) t.rest u.rest
  /-- The marks are the same. -/
  marks : t.marks = u.marks

/-- The same points have been passed and the same has been found. -/
structure Front.Alike (T : List Thread → List Thread → Prop) (f g : Front) : Prop where
  /-- The points agree. -/
  passed : f.passed = g.passed
  /-- The matches agree. -/
  found : f.found = g.found
  /-- The threads are related. -/
  next : T f.next g.next

variable {T : List Thread → List Thread → Prop} {p q : Place}

theorem Front.Alike.pass {f g : Front} (h : f.Alike T g) (number : Nat) {goOn goOn' : Front → Front}
    (hgo : ∀ f g, f.Alike T g → (goOn f).Alike T (goOn' g)) :
    (f.pass number goOn).Alike T (g.pass number goOn') := by
  unfold Front.pass
  rw [h.found, h.passed]
  split
  · exact h
  · exact hgo _ _ ⟨rfl, rfl, h.next⟩

theorem Front.Alike.branch {f g : Front} (h : f.Alike T g) (number : Nat)
    {first second first' second' : Front → Front}
    (hfirst : ∀ f g, f.Alike T g → (first f).Alike T (first' g))
    (hsecond : ∀ f g, f.Alike T g → (second f).Alike T (second' g)) :
    (f.branch number first second).Alike T (g.branch number first' second') :=
  h.pass number fun f g h => hsecond _ _ (hfirst f g h)

/-- A loop goes on with another round and leaves, in the one order or in the other. -/
theorem Front.Alike.turn {f g : Front} (h : f.Alike T g) (number : Nat) (greedy : Bool)
    {again leave again' leave' : Front → Front}
    (hagain : ∀ f g, f.Alike T g → (again f).Alike T (again' g))
    (hleave : ∀ f g, f.Alike T g → (leave f).Alike T (leave' g)) :
    ((if greedy then Front.branch number again leave else Front.branch number leave again) f).Alike T
      ((if greedy then Front.branch number again' leave'
        else Front.branch number leave' again') g) := by
  cases greedy with
  | true => exact h.branch number hagain hleave
  | false => exact h.branch number hleave hagain

/-! ## At two places -/

/-- At two places what is different in patterns is not seen. -/
structure Unseen (S : CharSet → CharSet → Prop) (L : Look → Look → Prop)
    (T : List Thread → List Thread → Prop) (p q : Place) : Prop where
  /-- They have the same offset. -/
  offset : p.offset = q.offset
  /-- Related conditions hold at both or at none. -/
  looks : ∀ l l', L l l' → l.holds p = l'.holds q
  /-- Threads stay related when a character is taken, or is not. -/
  takes : ∀ s s' t u ts us, S s s' → Thread.Alike S L t u → T ts us →
    T (if p.after.any s.contains then t :: ts else ts)
      (if q.after.any s'.contains then u :: us else us)

section Places

variable (h : Unseen S L T p q)

include h

/-- Patterns that are alike go on alike. -/
theorem explore_alike {n n' : Node} (hn : n.Alike S L n') {rest rest' : List Node}
    (hrest : List.Forall₂ (Node.Alike S L) rest rest') {goOn goOn' : Marks → Front → Front}
    (hgo : ∀ m f g, f.Alike T g → (goOn m f).Alike T (goOn' m g)) (m : Marks) (f g : Front)
    (hf : f.Alike T g) : (n.explore p rest goOn m f).Alike T (n'.explore q rest' goOn' m g) := by
  induction hn generalizing rest rest' goOn goOn' m f g with
  | empty => exact hgo m f g hf
  | @one s s' number hs =>
      refine hf.pass number fun f g hf => ?_
      have hnext := h.takes s s' ⟨rest, m⟩ ⟨rest', m⟩ f.next g.next hs ⟨hrest, rfl⟩ hf.next
      split <;> split <;> simp_all only [if_true, if_false, Bool.false_eq_true] <;>
        exact ⟨hf.passed, hf.found, hnext⟩
  | look hl =>
      rw [Node.explore, Node.explore, h.looks _ _ hl]
      split
      · exact hgo m f g hf
      · exact hf
  | mark slot =>
      rw [Node.explore, Node.explore, h.offset]
      exact hgo _ f g hf
  | seq ha hb iha ihb =>
      exact iha (.cons hb hrest) (fun m f g hf => ihb hrest hgo m f g hf) m f g hf
  | alt number ha hb iha ihb =>
      exact hf.branch number (fun f g hf => iha hrest hgo m f g hf)
        (fun f g hf => ihb hrest hgo m f g hf)
  | loop number greedy hr ih =>
      have hrow := List.Forall₂.cons (.loop number greedy hr) hrest
      exact hf.turn number greedy (fun f g hf => ih hrow (fun _ _ _ hf => hf) m f g hf)
        (fun f g hf => hgo m f g hf)
  | rounds number greedy hr ih =>
      have hrow := List.Forall₂.cons (.loop number greedy hr) hrest
      refine ih hrow (fun m f g hf => ?_) m f g hf
      exact hf.turn number greedy (fun f g hf => ih hrow (fun _ _ _ hf => hf) m f g hf)
        (fun f g hf => hgo m f g hf)

theorem exploreAll_alike {ns ns' : List Node} (hns : List.Forall₂ (Node.Alike S L) ns ns')
    (m : Marks) (f g : Front) (hf : f.Alike T g) :
    (exploreAll p ns m f).Alike T (exploreAll q ns' m g) := by
  induction hns generalizing m f g with
  | nil =>
      rw [exploreAll, exploreAll, Front.finish, Front.finish, hf.found]
      split
      · exact hf
      · exact ⟨hf.passed, rfl, hf.next⟩
  | cons hn hns ih => exact explore_alike h hn hns (fun m f g hf => ih m f g hf) m f g hf

theorem frontOf_alike {threads threads' : List Thread}
    (hthreads : List.Forall₂ (Thread.Alike S L) threads threads') (hnil : T [] []) :
    (frontOf p threads).Alike T (frontOf q threads') := by
  suffices hfold : ∀ f g : Front, f.Alike T g →
      (threads.foldl (fun f t => exploreAll p t.rest t.marks f) f).Alike T
        (threads'.foldl (fun f t => exploreAll q t.rest t.marks f) g) from
    hfold {} {} ⟨rfl, rfl, hnil⟩
  induction hthreads with
  | nil => exact fun f g hf => hf
  | @cons t u _ _ ht _ ih =>
      intro f g hf
      refine ih _ _ ?_
      simp only [ht.marks]
      exact exploreAll_alike h ht.rest u.marks f g hf

omit h in
theorem join_alike {n n' : Node} (hn : n.Alike S L n') (best : Option Marks)
    {threads threads' : List Thread} (hthreads : List.Forall₂ (Thread.Alike S L) threads threads') :
    List.Forall₂ (Thread.Alike S L) (join n best threads) (join n' best threads') := by
  unfold join
  split
  · exact hthreads
  · have hgroup : (Node.group 0 n).Alike S L (Node.group 0 n') :=
      .seq (.mark 0) (.seq hn (.mark 1))
    exact List.rel_append hthreads (.cons ⟨.cons hgroup .nil, rfl⟩ .nil)

end Places

/-! ## In a text -/

/-- What is different in patterns is not seen between some characters. -/
structure UnseenAmong (S : CharSet → CharSet → Prop) (L : Look → Look → Prop) (P : Char → Prop) :
    Prop where
  /-- Related conditions hold at the same places. -/
  looks : ∀ l l' p, L l l' → (∀ c ∈ p.before, P c) → (∀ c ∈ p.after, P c) → l.holds p = l'.holds p
  /-- Related sets have the same of these characters. -/
  sets : ∀ s s' c, S s s' → P c → s.contains c = s'.contains c

section Text

variable {P : Char → Prop} {n n' : Node} (h : UnseenAmong S L P) (hn : n.Alike S L n')

include h

theorem UnseenAmong.unseen {p : Place} (hbefore : ∀ c ∈ p.before, P c)
    (hafter : ∀ c ∈ p.after, P c) : Unseen S L (List.Forall₂ (Thread.Alike S L)) p p where
  offset := rfl
  looks l l' hl := h.looks l l' p hl hbefore hafter
  takes s s' t u ts us hs ht hts := by
    have hany : p.after.any s.contains = p.after.any s'.contains := by
      cases hp : p.after with
      | none => rfl
      | some c => exact h.sets s s' c hs (hafter c (by rw [hp]; rfl))
    rw [hany]
    split
    · exact .cons ht hts
    · exact hts

include hn

theorem run_alike {t : Text} (ht : ∀ c ∈ t, P c) {before : Option Char}
    (hbefore : ∀ c ∈ before, P c) (offset : Nat) (best : Option Marks)
    {threads threads' : List Thread} (hthreads : List.Forall₂ (Thread.Alike S L) threads threads') :
    run n before offset best threads t = run n' before offset best threads' t := by
  induction t generalizing before offset best threads threads' with
  | nil =>
      have hfront := frontOf_alike (h.unseen (p := ⟨before, none, offset⟩) hbefore (by simp))
        (join_alike hn best hthreads) .nil
      rw [run, run, hfront.found]
  | cons c t ih =>
      obtain ⟨hc, ht⟩ := List.forall_mem_cons.1 ht
      have hplace := h.unseen (p := ⟨before, some c, offset⟩) hbefore (by simpa using hc)
      have hfront := frontOf_alike hplace (join_alike hn best hthreads) .nil
      have hnone : threads.isEmpty = threads'.isEmpty := by cases hthreads <;> rfl
      rw [run, run, hnone]
      split
      · rfl
      · simp only [hfront.found]
        exact ih ht (by simpa using hc) _ _ (List.rel_reverse hfront.next)

theorem findFrom_alike {t : Text} (ht : ∀ c ∈ t, P c) {before : Option Char}
    (hbefore : ∀ c ∈ before, P c) (offset : Nat) :
    findFrom n before offset t = findFrom n' before offset t :=
  congrArg (Option.map Found.mk) (run_alike h hn ht hbefore offset none .nil)

/-- Patterns that are alike find the same. -/
theorem find_alike {t : Text} (ht : ∀ c ∈ t, P c) : find n t = find n' t :=
  findFrom_alike h hn ht (by simp) 0

theorem searchSome_alike {β : Type} (f : Found → Option β) (resume : Nat) {t : Text}
    (ht : ∀ c ∈ t, P c) {before : Option Char} (hbefore : ∀ c ∈ before, P c) (offset : Nat) :
    searchSome n f resume before offset t = searchSome n' f resume before offset t := by
  induction t generalizing resume before offset with
  | nil => rw [searchSome, searchSome, findFrom_alike h hn ht hbefore]
  | cons c t ih =>
      obtain ⟨hc, hrest⟩ := List.forall_mem_cons.1 ht
      have hnext : ∀ d ∈ some c, P d := by simpa using hc
      have hgo := fun resume => ih resume hrest hnext (offset + c.utf8Size)
      rw [searchSome, searchSome, findFrom_alike h hn ht hbefore]
      simp only [hgo]

/-- What is made of the matches is the same, too. -/
theorem findSome_alike {β : Type} (f : Found → Option β) {t : Text} (ht : ∀ c ∈ t, P c) :
    findSome n f t = findSome n' f t :=
  searchSome_alike h hn f 0 ht (by simp) 0

end Text

end Emend.Pattern
