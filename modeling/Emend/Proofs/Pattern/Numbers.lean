import Emend.Pattern.Form
/-!
# Numbers of points

The points of a pattern that is made from a form have numbers of their own (`Form.toNode_distinct`).
The numbers of each part fill a range that no other part uses (`Node.Distinct`), since every part
starts to count where the one before has stopped.
-/

namespace Emend.Pattern

namespace Node

/-- The numbers of a pattern's points. -/
def numbers : Node → List Nat
  | empty | look _ | mark _ => []
  | one k _ => [k]
  | seq a b => a.numbers ++ b.numbers
  | alt k a b => k :: (a.numbers ++ b.numbers)
  | loop k _ r | rounds k _ r => k :: r.numbers

/-- The points of a pattern have numbers of their own, from `low` on and below `high`. -/
structure Distinct (low high : Nat) (n : Node) : Prop where
  /-- The range of numbers. -/
  le : low ≤ high
  /-- No number is used twice. -/
  nodup : n.numbers.Nodup
  /-- The numbers are in the range. -/
  range : ∀ k ∈ n.numbers, low ≤ k ∧ k < high

variable {a b r : Node} {low mid high : Nat} {greedy : Bool}

theorem distinct_nil {n : Node} (hn : n.numbers = []) (k : Nat) : Distinct k k n :=
  ⟨Nat.le_refl k, by simp [hn], by simp [hn]⟩

theorem distinct_one (k : Nat) (s : CharSet) : Distinct k (k + 1) (one k s) :=
  ⟨Nat.le_succ k, by simp [numbers], by simp [numbers]⟩

theorem Distinct.append (ha : Distinct mid high a) (hb : Distinct low mid b) :
    (a.numbers ++ b.numbers).Nodup ∧ ∀ k ∈ a.numbers ++ b.numbers, low ≤ k ∧ k < high := by
  have hle := ha.le
  have hle' := hb.le
  refine ⟨List.nodup_append.2 ⟨ha.nodup, hb.nodup, fun k hk j hj => ?_⟩,
    List.forall_mem_append.2 ⟨fun k hk => ?_, fun k hk => ?_⟩⟩
  · have := ha.range k hk
    have := hb.range j hj
    omega
  · have := ha.range k hk
    omega
  · have := hb.range k hk
    omega

theorem Distinct.seq (ha : Distinct mid high a) (hb : Distinct low mid b) :
    Distinct low high (.seq a b) :=
  ⟨Nat.le_trans hb.le ha.le, (ha.append hb).1, (ha.append hb).2⟩

/-- A point after the others has the next number. -/
theorem Distinct.cons {ks : List Nat} (hle : low ≤ high)
    (hks : ks.Nodup ∧ ∀ k ∈ ks, low ≤ k ∧ k < high) :
    (high :: ks).Nodup ∧ ∀ k ∈ high :: ks, low ≤ k ∧ k < high + 1 := by
  obtain ⟨hnodup, hrange⟩ := hks
  refine ⟨List.nodup_cons.2 ⟨fun hmem => ?_, hnodup⟩, List.forall_mem_cons.2 ⟨by omega, ?_⟩⟩
  · have := hrange high hmem
    omega
  · intro k hk
    have := hrange k hk
    omega

theorem Distinct.alt (ha : Distinct mid high a) (hb : Distinct low mid b) :
    Distinct low (high + 1) (.alt high a b) := by
  have hle := Nat.le_trans hb.le ha.le
  obtain ⟨hnodup, hrange⟩ := Distinct.cons hle (ha.append hb)
  exact ⟨Nat.le_succ_of_le hle, hnodup, hrange⟩

theorem Distinct.loop (hr : Distinct low high r) :
    Distinct low (high + 1) (.loop high greedy r) := by
  obtain ⟨hnodup, hrange⟩ := Distinct.cons hr.le ⟨hr.nodup, hr.range⟩
  exact ⟨Nat.le_succ_of_le hr.le, hnodup, hrange⟩

theorem Distinct.rounds (hr : Distinct low high r) :
    Distinct low (high + 1) (.rounds high greedy r) :=
  have hloop : Distinct low (high + 1) (.loop high greedy r) := hr.loop
  ⟨hloop.le, hloop.nodup, hloop.range⟩

theorem Distinct.opt (ha : Distinct low high a) : Distinct low (high + 1) (a.opt high greedy) := by
  unfold Node.opt
  split
  · exact ha.alt (distinct_nil rfl low)
  · exact (distinct_nil rfl high).alt ha

theorem Distinct.star (ha : Distinct low high a) :
    Distinct low (high + 2) (a.star high (high + 1) greedy) := by
  unfold Node.star
  split
  · have hle := Nat.le_succ_of_le ha.le
    obtain ⟨hnodup, hrange⟩ := Distinct.cons hle (Distinct.cons ha.le ⟨ha.nodup, ha.range⟩)
    -- The number of the choice comes before that of the rounds.
    have hswap : (Node.opt high greedy (.rounds (high + 1) greedy a)).numbers.Perm
        ((high + 1) :: high :: a.numbers) := by
      unfold Node.opt
      split <;> simpa [numbers] using List.Perm.swap _ _ _
    exact ⟨Nat.le_succ_of_le hle, hswap.nodup_iff.2 hnodup, fun k hk =>
      hrange k (hswap.mem_iff.1 hk)⟩
  · have hloop : Distinct low (high + 1) (.loop high greedy a) := ha.loop
    exact ⟨Nat.le_succ_of_le hloop.le, hloop.nodup, fun k hk =>
      ⟨(hloop.range k hk).1, Nat.lt_succ_of_lt (hloop.range k hk).2⟩⟩

end Node

namespace Form

/-- A numbered pattern uses no number twice, and none that was used before. -/
def Numbered.Fresh (a : Numbered) : Prop := ∀ k, (a k).1.Distinct k (a k).2

namespace Numbered.Fresh

variable {a : Numbered} {rest : Node × Nat} {low : Nat}

theorem before (ha : a.Fresh) (hrest : rest.1.Distinct low rest.2) :
    (a.before rest).1.Distinct low (a.before rest).2 := (ha rest.2).seq hrest

theorem repeated (ha : a.Fresh) (m : Nat) (hrest : rest.1.Distinct low rest.2) :
    (Nat.repeat a.before m rest).1.Distinct low (Nat.repeat a.before m rest).2 := by
  induction m with
  | zero => exact hrest
  | succ m ih => exact ha.before ih

theorem letters (cs : Text) (hrest : rest.1.Distinct low rest.2) :
    let row := cs.foldl (fun rest c => (Numbered.one (.singleton c)).before rest) rest
    row.1.Distinct low row.2 := by
  induction cs generalizing rest with
  | nil => exact hrest
  | cons c cs ih => exact ih (before (fun k => Node.distinct_one k _) hrest)

theorem text (t : Text) : (Numbered.text t).Fresh := by
  unfold Numbered.text
  cases t.reverse with
  | nil => exact Node.distinct_nil rfl
  | cons c cs => exact fun k => letters cs (Node.distinct_one k _)

theorem exactly (ha : a.Fresh) (m : Nat) : (a.exactly m).Fresh := by
  cases m with
  | zero => exact Node.distinct_nil rfl
  | succ m => exact fun k => ha.repeated m (ha k)

theorem upTo (ha : a.Fresh) (greedy : Bool) (most : Nat) : (a.upTo greedy most).Fresh := by
  intro k
  unfold Numbered.upTo
  induction most with
  | zero => exact Node.distinct_nil rfl k
  | succ most ih => exact (ha.before ih).opt

theorem atLeast (ha : a.Fresh) (greedy : Bool) (low : Nat) : (a.atLeast greedy low).Fresh := by
  cases low with
  | zero => exact fun k => (ha k).star
  | succ low => exact fun k => ha.repeated low (ha k).rounds

theorem between (ha : a.Fresh) (greedy : Bool) (low more : Nat) :
    (a.between greedy low more).Fresh :=
  fun k => ha.repeated low (ha.upTo greedy more k)

end Numbered.Fresh

theorem numbered_fresh (f : Form) : f.numbered.Fresh := by
  induction f with
  | empty | look => exact Node.distinct_nil rfl
  | text t => exact .text t
  | set s => exact fun k => Node.distinct_one k s
  | times low high greedy f ih =>
      cases high with
      | none => exact ih.atLeast greedy low
      | some high =>
          intro k
          rw [numbered]
          split
          · exact ih.exactly low k
          · exact ih.between greedy low (high - low) k
  | group index f ih =>
      intro k
      have hlast := (ih k).seq (Node.distinct_nil (n := .mark (2 * index + 1)) rfl k)
      exact (Node.distinct_nil (n := .mark (2 * index)) rfl _).seq hlast
  | seq a b iha ihb => exact fun k => iha.before (ihb k)
  | alt a b iha ihb => exact fun k => (iha _).alt (ihb k)

/-- The points of a form's pattern have numbers of their own. -/
theorem toNode_distinct (f : Form) : f.toNode.numbers.Nodup := (numbered_fresh f 0).nodup

end Form

end Emend.Pattern
