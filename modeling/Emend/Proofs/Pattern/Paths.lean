import Emend.Pattern.Search
import Emend.Proofs.Pattern.Language
import Emend.Proofs.Text.Places
/-!
# Paths through patterns

A path through a pattern is the list of what is done on the way: characters are taken, places are
noted, and conditions are checked (`Step`).  The paths of a pattern are its words over these steps
(`Node.paths`).

Whether a path can be followed is seen at a spot of a text (`Spot.follow?`): the characters have to
be there, and the conditions have to hold.  What a path notes on its way depends on where it starts
and on what it takes (`noted`).

Where nothing is noted and nothing is checked, the paths are the texts of the language
(`Form.paths_of_isBare`).
-/

namespace Emend.Pattern

open scoped Computability

/-- A step on the way through a pattern. -/
inductive Step where
  /-- A character is taken. -/
  | take (c : Char)
  /-- The place is noted. -/
  | note (slot : Nat)
  /-- A condition is checked. -/
  | check (cond : Look)

/-- The steps that the leaves of patterns stand for. -/
def steps : Leaves Step where
  one s := {w | ∃ c, s.contains c = true ∧ w = [.take c]}
  look l := {[.check l]}
  mark slot := {[.note slot]}

/-- The paths through a pattern. -/
abbrev Node.paths (n : Node) : Language Step := n.wordsOver steps

/-- The paths through patterns one after the other. -/
def pathsOf (ns : List Node) : Language Step := (ns.map Node.paths).prod

theorem pathsOf_cons (n : Node) (ns : List Node) : pathsOf (n :: ns) = n.paths * pathsOf ns :=
  List.prod_cons

theorem pathsOf_singleton (n : Node) : pathsOf [n] = n.paths := List.prod_singleton

section Rows

variable {a b r : Node} {number : Nat} {greedy : Bool} (ns : List Node)

theorem pathsOf_empty : pathsOf (.empty :: ns) = pathsOf ns := (pathsOf_cons _ _).trans (one_mul _)

theorem pathsOf_seq : pathsOf (.seq a b :: ns) = pathsOf (a :: b :: ns) := by
  rw [pathsOf_cons, pathsOf_cons, pathsOf_cons]
  exact mul_assoc a.paths b.paths (pathsOf ns)

theorem pathsOf_alt :
    pathsOf (.alt number a b :: ns) = pathsOf (a :: ns) + pathsOf (b :: ns) := by
  rw [pathsOf_cons, pathsOf_cons, pathsOf_cons]
  exact add_mul a.paths b.paths (pathsOf ns)

theorem pathsOf_rounds :
    pathsOf (.rounds number greedy r :: ns) = pathsOf (r :: .loop number greedy r :: ns) := by
  rw [pathsOf_cons, pathsOf_cons, pathsOf_cons]
  exact mul_assoc r.paths r.paths∗ (pathsOf ns)

theorem pathsOf_loop : pathsOf (.loop number greedy r :: ns) =
    pathsOf ns + pathsOf (r :: .loop number greedy r :: ns) := by
  have hloop : (Node.loop number greedy r).paths = 1 + r.paths * r.paths∗ :=
    (Language.one_add_self_mul_kstar_eq_kstar r.paths).symm
  calc pathsOf (.loop number greedy r :: ns)
      = (1 + r.paths * r.paths∗) * pathsOf ns := by rw [pathsOf_cons, hloop]
    _ = pathsOf ns + r.paths * (r.paths∗ * pathsOf ns) := by rw [add_mul, one_mul, mul_assoc]
    _ = pathsOf ns + pathsOf (r :: .loop number greedy r :: ns) := by
      rw [pathsOf_cons r, pathsOf_cons]
      rfl

end Rows

section Members

variable {l : Language Char} {m : Language Step} {w : List Step}

theorem mem_step_mul {x : Step} :
    w ∈ ({[x]} : Language Step) * m ↔ ∃ v ∈ m, x :: v = w := by
  rw [Language.mem_mul]
  constructor
  · rintro ⟨_, rfl, v, hv, rfl⟩
    exact ⟨v, hv, rfl⟩
  · rintro ⟨v, hv, rfl⟩
    exact ⟨[x], rfl, v, hv, rfl⟩

theorem mem_take : w ∈ Language.map Step.take l ↔ ∃ u ∈ l, u.map .take = w := Iff.rfl

theorem mem_take_mul :
    w ∈ Language.map Step.take l * m ↔ ∃ u ∈ l, ∃ v ∈ m, u.map .take ++ v = w := by
  rw [Language.mem_mul]
  constructor
  · rintro ⟨_, ⟨u, hu, rfl⟩, v, hv, rfl⟩
    exact ⟨u, hu, v, hv, rfl⟩
  · rintro ⟨u, hu, v, hv, rfl⟩
    exact ⟨_, ⟨u, hu, rfl⟩, v, hv, rfl⟩

/-- A path through a group notes its ends. -/
theorem mem_paths_group {n : Node} {index : Nat} : w ∈ (Node.group index n).paths ↔
    ∃ v ∈ n.paths, .note (2 * index) :: (v ++ [.note (2 * index + 1)]) = w := by
  constructor
  · rintro ⟨_, rfl, _, ⟨v, hv, _, rfl, rfl⟩, rfl⟩
    exact ⟨v, hv, rfl⟩
  · rintro ⟨v, hv, rfl⟩
    exact ⟨_, rfl, _, ⟨v, hv, _, rfl, rfl⟩, rfl⟩

end Members

/-! ## Following a path -/

/-- A place of a text, with the text that follows. -/
structure Spot where
  /-- The character before it. -/
  before : Option Char
  /-- The number of bytes before it. -/
  offset : Nat
  /-- The text that follows. -/
  ahead : Text

namespace Spot

/-- The spot between two parts of a text. -/
def between (head t : Text) : Spot := ⟨head.getLast?, Text.size head, t⟩

/-- What conditions see of a spot. -/
def place (s : Spot) : Place := ⟨s.before, s.ahead.head?, s.offset⟩

/-- The spot after a step, if this can be done. -/
def step? (s : Spot) : Step → Option Spot
  | .take c =>
    if s.ahead.head? = some c then some ⟨some c, s.offset + c.utf8Size, s.ahead.tail⟩ else none
  | .note _ => some s
  | .check l => if l.holds s.place then some s else none

/-- The spot at the end of a path, if this can be followed. -/
def follow? (s : Spot) : List Step → Option Spot
  | [] => some s
  | x :: w => (s.step? x).bind fun s => s.follow? w

theorem follow?_append (s : Spot) (w v : List Step) :
    s.follow? (w ++ v) = (s.follow? w).bind fun s => s.follow? v := by
  induction w generalizing s with
  | nil => rfl
  | cons x w ih =>
      rw [List.cons_append, follow?, follow?, Option.bind_assoc]
      exact congrArg _ (funext ih)

theorem between_concat (head t : Text) (c : Char) :
    between (head ++ [c]) t = ⟨some c, (between head (c :: t)).offset + c.utf8Size, t⟩ := by
  rw [between, List.getLast?_concat, Text.size_concat]
  rfl

theorem step?_take (head t : Text) (c : Char) :
    (between head (c :: t)).step? (.take c) = some (between (head ++ [c]) t) := by
  rw [between_concat, step?, if_pos]
  · rfl
  · rfl

/-- Taking a text leads to the spot after it. -/
theorem follow?_take (head u t : Text) :
    (between head (u ++ t)).follow? (u.map .take) = some (between (head ++ u) t) := by
  induction u generalizing head with
  | nil => rw [List.append_nil, List.nil_append, List.map_nil, follow?]
  | cons c u ih =>
      rw [List.map_cons, follow?, List.cons_append, step?_take, Option.bind_some, ih,
        List.append_assoc]
      rfl

end Spot

/-- The characters that are taken on a path. -/
def taken : List Step → Text
  | [] => []
  | .take c :: w => c :: taken w
  | .note _ :: w | .check _ :: w => taken w

theorem taken_append (w v : List Step) : taken (w ++ v) = taken w ++ taken v := by
  induction w with
  | nil => rfl
  | cons x w ih => cases x <;> simp [taken, ih]

theorem taken_take (u : Text) : taken (u.map .take) = u := by
  induction u with
  | nil => rfl
  | cons c u ih => rw [List.map_cons, taken, ih]

/-- What a path from an offset notes, after what was noted before. -/
def noted (offset : Nat) : List Step → Marks → Marks
  | [], m => m
  | .take c :: w, m => noted (offset + c.utf8Size) w m
  | .note slot :: w, m => noted offset w ((slot, offset) :: m)
  | .check _ :: w, m => noted offset w m

theorem noted_append (offset : Nat) (w v : List Step) (m : Marks) :
    noted offset (w ++ v) m = noted (offset + Text.size (taken w)) v (noted offset w m) := by
  induction w generalizing offset m with
  | nil => rfl
  | cons x w ih =>
      cases x with
      | take c => rw [List.cons_append, noted, noted, ih, taken, Text.size, Nat.add_assoc]
      | note slot => exact ih offset ((slot, offset) :: m)
      | check l => exact ih offset m

theorem noted_take (offset : Nat) (u : Text) (m : Marks) : noted offset (u.map .take) m = m := by
  induction u generalizing offset with
  | nil => rfl
  | cons c u ih => exact ih (offset + c.utf8Size)

/-- A path leads over what is taken on it. -/
theorem Spot.ahead_of_follow? {s s' : Spot} {w : List Step} (h : s.follow? w = some s') :
    s.ahead = taken w ++ s'.ahead ∧ s'.offset = s.offset + Text.size (taken w) := by
  induction w generalizing s with
  | nil =>
      cases h
      exact ⟨rfl, rfl⟩
  | cons x w ih =>
      rw [follow?, Option.bind_eq_some_iff] at h
      obtain ⟨next, hstep, hrest⟩ := h
      obtain ⟨hahead, hoffset⟩ := ih hrest
      cases x with
      | take c =>
          rw [step?] at hstep
          split at hstep
          · next hc =>
            cases hstep
            obtain ⟨tail, htail⟩ := List.head?_eq_some_iff.1 hc
            rw [htail] at hahead ⊢
            rw [taken, List.cons_append, ← hahead, Text.size, hoffset, Nat.add_assoc]
            exact ⟨rfl, rfl⟩
          · cases hstep
      | note slot =>
          cases hstep
          exact ⟨hahead, hoffset⟩
      | check l =>
          rw [step?] at hstep
          split at hstep
          · cases hstep
            exact ⟨hahead, hoffset⟩
          · cases hstep

/-! ## Paths without notes -/

namespace Form

/-- The paths through a form. -/
abbrev paths (f : Form) : Language Step := f.wordsOver steps

/-- Whether nothing is noted and nothing is checked in a form. -/
def isBare : Form → Bool
  | empty | text _ | set _ => true
  | look _ | group _ _ => false
  | times _ _ _ f => f.isBare
  | seq a b | alt a b => a.isBare && b.isBare

theorem steps_one (s : CharSet) : steps.one s = Language.map Step.take (charTexts s) := by
  ext w
  constructor
  · rintro ⟨c, hc, rfl⟩
    exact ⟨[c], ⟨c, hc, rfl⟩, rfl⟩
  · rintro ⟨_, ⟨c, hc, rfl⟩, rfl⟩
    exact ⟨c, hc, rfl⟩

theorem map_take_singleton (t : Text) : Language.map Step.take {t} = {t.map .take} := by
  ext w
  constructor
  · rintro ⟨_, rfl, rfl⟩
    rfl
  · rintro rfl
    exact ⟨t, rfl, rfl⟩

theorem paths_text (t : Text) : (text t).paths = {t.map .take} := by
  induction t with
  | nil => rfl
  | cons c t ih =>
      rw [paths, wordsOver_text_cons, ← paths, ih, steps_one, charTexts_singleton,
        map_take_singleton, ← singleton_append]
      rfl

/-- Where nothing is noted or checked, a path takes a text of the language. -/
theorem paths_of_isBare {f : Form} (h : f.isBare = true) :
    f.paths = Language.map Step.take f.language := by
  induction f with
  | empty => exact (map_one _).symm
  | text t =>
      rw [paths_text, language, map_take_singleton]
  | set s => exact steps_one s
  | look | group => cases h
  | times low high greedy f ih =>
      have hf : f.wordsOver steps = Language.map Step.take f.language := ih h
      cases high with
      | none => rw [paths, wordsOver, language, hf, map_mul, map_pow, Language.map_kstar]
      | some high =>
          rw [paths, wordsOver, language, hf, map_mul, map_pow, map_pow, map_add, map_one]
  | seq a b iha ihb =>
      obtain ⟨ha, hb⟩ := Bool.and_eq_true_iff.1 h
      rw [paths, wordsOver, language, map_mul, ← iha ha, ← ihb hb]
  | alt a b iha ihb =>
      obtain ⟨ha, hb⟩ := Bool.and_eq_true_iff.1 h
      rw [paths, wordsOver, language, map_add, ← iha ha, ← ihb hb]

end Form

end Emend.Pattern
