import Emend.Pattern.Search
import Emend.Proofs.Text.Places
/-!
# What is kept while a search goes on

At a place, a thread goes on through patterns step by step without taking a character (`Goes`).
Each of its ways ends with a character that is taken, or with a match.  A property of fronts is kept
there if the steps keep a property of threads, and the ends of ways then keep that of the front
(`Front.Keeps`).

So it is shown with one case for each step and each end of a way, and it holds of what comes of all
threads at the place (`Front.Keeps.frontOf`).  A search goes from place to place.  What lasts of the
threads from one character to the next says what is known of a match (`Thread.Keeps.run`).
-/

namespace Emend.Pattern

/-- A thread goes on at a place without taking a character: what it has noted and what it is still
to match, before this and after it. -/
inductive Goes (p : Place) : Marks → List Node → Marks → List Node → Prop where
  /-- Nothing is matched. -/
  | empty {m : Marks} {rest : List Node} : Goes p m (.empty :: rest) m rest
  /-- A condition holds. -/
  | look {m : Marks} {rest : List Node} {l : Look} (h : l.holds p = true) :
      Goes p m (.look l :: rest) m rest
  /-- The place is noted. -/
  | mark {m : Marks} {rest : List Node} {slot : Nat} :
      Goes p m (.mark slot :: rest) ((slot, p.offset) :: m) rest
  /-- Two patterns come one after the other. -/
  | seq {m : Marks} {rest : List Node} {a b : Node} :
      Goes p m (.seq a b :: rest) m (a :: b :: rest)
  /-- The first alternative. -/
  | first {m : Marks} {rest : List Node} {number : Nat} {a b : Node} :
      Goes p m (.alt number a b :: rest) m (a :: rest)
  /-- The second alternative. -/
  | second {m : Marks} {rest : List Node} {number : Nat} {a b : Node} :
      Goes p m (.alt number a b :: rest) m (b :: rest)
  /-- Another round of a loop. -/
  | again {m : Marks} {rest : List Node} {number : Nat} {greedy : Bool} {round : Node} :
      Goes p m (.loop number greedy round :: rest) m (round :: .loop number greedy round :: rest)
  /-- A loop is left. -/
  | leave {m : Marks} {rest : List Node} {number : Nat} {greedy : Bool} {round : Node} :
      Goes p m (.loop number greedy round :: rest) m rest
  /-- The first round. -/
  | rounds {m : Marks} {rest : List Node} {number : Nat} {greedy : Bool} {round : Node} :
      Goes p m (.rounds number greedy round :: rest) m (round :: .loop number greedy round :: rest)

/-- A property of fronts that is kept at a place while threads go on, of which `T` says what they
have noted and what they are still to match. -/
structure Front.Keeps (p : Place) (T : Marks → List Node → Prop) (Q : Front → Prop) : Prop where
  /-- A thread goes on. -/
  step : ∀ {m ns m' ns'}, Goes p m ns m' ns' → T m ns → T m' ns'
  /-- A point is passed. -/
  passed : ∀ f k, Q f → Q { f with passed := k }
  /-- A character is taken. -/
  push : ∀ f m rest k s c, f.found = none → Q f → p.after = some c → s.contains c = true →
    T m (.one k s :: rest) → Q (f.push ⟨rest, m⟩)
  /-- A match is found. -/
  finish : ∀ f m, f.found = none → Q f → T m [] → Q { f with found := some m }

namespace Front.Keeps

variable {p : Place} {T : Marks → List Node → Prop} {Q : Front → Prop} (h : Keeps p T Q)

include h

theorem pass {f : Front} (hf : Q f) (number : Nat) {goOn : Front → Front}
    (hgo : ∀ f, f.found = none → Q f → Q (goOn f)) : Q (f.pass number goOn) := by
  unfold Front.pass
  split
  · exact hf
  · next hcond =>
    simp only [Bool.or_eq_true, not_or, Option.not_isSome_iff_eq_none] at hcond
    exact hgo _ hcond.1 (h.passed f _ hf)

theorem branch {f : Front} (hf : Q f) (number : Nat) {first second : Front → Front}
    (hfirst : ∀ f, Q f → Q (first f)) (hsecond : ∀ f, Q f → Q (second f)) :
    Q (f.branch number first second) :=
  h.pass hf number fun f _ hf => hsecond _ (hfirst f hf)

/-- Another round of a loop and what follows the loop, in the one order or in the other. -/
theorem turn {f : Front} (hf : Q f) (number : Nat) (greedy : Bool) {again leave : Front → Front}
    (hagain : ∀ f, Q f → Q (again f)) (hleave : ∀ f, Q f → Q (leave f)) :
    Q ((if greedy then Front.branch number again leave
      else Front.branch number leave again) f) := by
  cases greedy with
  | true => exact h.branch hf number hagain hleave
  | false => exact h.branch hf number hleave hagain

/-- Going through a pattern keeps the property if what follows does. -/
theorem explore (n : Node) {rest : List Node} {goOn : Marks → Front → Front}
    (hgo : ∀ m f, T m rest → Q f → Q (goOn m f)) (m : Marks) (f : Front) (hm : T m (n :: rest))
    (hf : Q f) : Q (n.explore p rest goOn m f) := by
  induction n generalizing rest goOn m f with
  | empty => exact hgo m f (h.step .empty hm) hf
  | one number set =>
      refine h.pass hf number fun f hfound hf => ?_
      split
      · next hafter =>
        obtain ⟨c, hc, hset⟩ := (Option.any_eq_true _ _).1 hafter
        exact h.push f m rest number set c hfound hf hc hset hm
      · exact hf
  | look cond =>
      rw [Node.explore]
      split
      · next hcond => exact hgo m f (h.step (.look hcond) hm) hf
      · exact hf
  | mark slot => exact hgo _ f (h.step .mark hm) hf
  | seq a b iha ihb => exact iha (ihb hgo) m f (h.step .seq hm) hf
  | alt number a b iha ihb =>
      exact h.branch hf number (fun f hf => iha hgo m f (h.step .first hm) hf)
        (fun f hf => ihb hgo m f (h.step .second hm) hf)
  | loop number greedy round ih =>
      exact h.turn hf number greedy
        (fun f hf => ih (fun _ _ _ hf => hf) m f (h.step .again hm) hf)
        (fun f hf => hgo m f (h.step .leave hm) hf)
  | rounds number greedy round ih =>
      -- After the first round, there is a loop.
      refine ih (fun m f hm hf => ?_) m f (h.step .rounds hm) hf
      exact h.turn hf number greedy
        (fun f hf => ih (fun _ _ _ hf => hf) m f (h.step .again hm) hf)
        (fun f hf => hgo m f (h.step .leave hm) hf)

theorem exploreAll (ns : List Node) (m : Marks) (f : Front) (hm : T m ns) (hf : Q f) :
    Q (exploreAll p ns m f) := by
  induction ns generalizing m f with
  | nil =>
      rw [Pattern.exploreAll, Front.finish]
      split
      · exact hf
      · next hfound => exact h.finish f m (Option.not_isSome_iff_eq_none.1 hfound) hf hm
  | cons n ns ih => exact h.explore n ih m f hm hf

/-- What comes of threads at a place has the property. -/
theorem frontOf {threads : List Thread} (hthreads : ∀ t ∈ threads, T t.marks t.rest) (hQ : Q {}) :
    Q (frontOf p threads) := by
  unfold Pattern.frontOf
  generalize ({} : Front) = start at hQ ⊢
  induction threads generalizing start with
  | nil => exact hQ
  | cons t ts ih =>
      obtain ⟨ht, hts⟩ := List.forall_mem_cons.1 hthreads
      exact ih hts _ (h.exploreAll t.rest t.marks start ht hQ)

end Front.Keeps

/-! ## Searches -/

/-- A property `T` of threads between two parts of a content that lasts while they go on, and what
is known of a match, `P`. -/
structure Thread.Keeps (n : Node) (content : Text) (T : Text → Text → Thread → Prop)
    (P : Marks → Prop) : Prop where
  /-- The thread that starts between two parts. -/
  start : ∀ head t, content = head ++ t → T head t ⟨[.group 0 n], []⟩
  /-- Threads that take the next character. -/
  next : ∀ {head c t threads}, content = head ++ c :: t → (∀ k ∈ threads, T head (c :: t) k) →
    ∀ k ∈ (frontOf ⟨head.getLast?, some c, Text.size head⟩ threads).next, T (head ++ [c]) t k
  /-- A match is found. -/
  found : ∀ {head t threads m}, content = head ++ t → (∀ k ∈ threads, T head t k) →
    (frontOf ⟨head.getLast?, t.head?, Text.size head⟩ threads).found = some m → P m

namespace Thread.Keeps

variable {n : Node} {content : Text} {T : Text → Text → Thread → Prop} {P : Marks → Prop}
  (h : Keeps n content T P)

include h

theorem join {head t : Text} (hcontent : content = head ++ t) (best : Option Marks)
    {threads : List Thread} (hthreads : ∀ k ∈ threads, T head t k) :
    ∀ k ∈ join n best threads, T head t k := by
  unfold Pattern.join
  split
  · exact hthreads
  · refine List.forall_mem_append.2 ⟨hthreads, fun k hk => ?_⟩
    rw [List.mem_singleton.1 hk]
    exact h.start head t hcontent

/-- What a search through the rest of a content finds is known. -/
theorem run (head t : Text) (hcontent : content = head ++ t) {best : Option Marks}
    {threads : List Thread} (hbest : ∀ m, best = some m → P m)
    (hthreads : ∀ k ∈ threads, T head t k) :
    ∀ m, run n head.getLast? (Text.size head) best threads t = some m → P m := by
  induction t generalizing head best threads with
  | nil =>
      intro m hm
      rcases Option.or_eq_some_iff.1 hm with hfound | ⟨-, hold⟩
      · exact h.found hcontent (h.join hcontent best hthreads) hfound
      · exact hbest m hold
  | cons c t ih =>
      have hjoined := h.join hcontent best hthreads
      have hnext := fun {best threads} =>
        @ih (head ++ [c]) (hcontent.trans (List.append_cons head c t)) best threads
      rw [List.getLast?_concat, Text.size_concat] at hnext
      intro m hm
      rw [Pattern.run] at hm
      split at hm
      · exact hbest m hm
      · refine hnext ?_ ?_ m hm
        · intro m hm
          rcases Option.or_eq_some_iff.1 hm with hfound | ⟨-, hold⟩
          · exact h.found hcontent hjoined hfound
          · exact hbest m hold
        · exact fun k hk => h.next hcontent hjoined k (List.mem_reverse.1 hk)

end Thread.Keeps

end Emend.Pattern
