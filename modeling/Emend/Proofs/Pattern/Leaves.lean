import Mathlib.Computability.Language
import Emend.Pattern.Form
/-!
# Words of patterns

What a pattern reads is made of what its leaves read: the sets, the conditions and the marks.  Once
these stand for languages over some alphabet (`Leaves`), every pattern stands for one
(`Node.wordsOver`), and so does every form (`Form.wordsOver`).

The pattern of a form has the words of the form (`Form.toNode_wordsOver`), whatever the leaves stand
for: counts are put into practice by writing a pattern several times, and this is where powers of
its language come from.
-/

namespace Emend.Pattern

open scoped Computability

/-- What the leaves of patterns stand for. -/
structure Leaves (σ : Type) where
  /-- One character of a set. -/
  one : CharSet → Language σ
  /-- A condition. -/
  look : Look → Language σ
  /-- A mark with its slot. -/
  mark : Nat → Language σ

variable {σ : Type} (v : Leaves σ)

theorem singleton_append (s t : List σ) : ({s ++ t} : Language σ) = {s} * {t} := by
  ext w
  rw [Language.mem_mul]
  constructor
  · rintro rfl
    exact ⟨s, rfl, t, rfl, rfl⟩
  · rintro ⟨_, rfl, _, rfl, rfl⟩
    rfl

/-- The words of a pattern. -/
def Node.wordsOver : Node → Language σ
  | .empty => 1
  | .one _ s => v.one s
  | .look l => v.look l
  | .mark slot => v.mark slot
  | .seq a b => a.wordsOver * b.wordsOver
  | .alt _ a b => a.wordsOver + b.wordsOver
  | .loop _ _ r => r.wordsOver∗
  | .rounds _ _ r => r.wordsOver * r.wordsOver∗

namespace Form

/-- The words of a form. -/
def wordsOver : Form → Language σ
  | empty => 1
  | text t => (t.map fun c => v.one (.singleton c)).prod
  | set s => v.one s
  | look l => v.look l
  | times low none _ f => f.wordsOver ^ low * f.wordsOver∗
  | times low (some high) _ f => f.wordsOver ^ low * (1 + f.wordsOver) ^ (high - low)
  | group index f => v.mark (2 * index) * (f.wordsOver * v.mark (2 * index + 1))
  | seq a b => a.wordsOver * b.wordsOver
  | alt a b => a.wordsOver + b.wordsOver

/-! ## Numbered patterns -/

section Numbered

variable {v} {a : Numbered} {l : Language σ}

theorem wordsOver_before (h : ∀ k, (a k).1.wordsOver v = l) (rest : Node × Nat) :
    (a.before rest).1.wordsOver v = l * rest.1.wordsOver v :=
  congrArg (· * rest.1.wordsOver v) (h rest.2)

theorem wordsOver_repeat (h : ∀ k, (a k).1.wordsOver v = l) (n : Nat) (rest : Node × Nat) :
    (Nat.repeat a.before n rest).1.wordsOver v = l ^ n * rest.1.wordsOver v := by
  induction n with
  | zero => rw [Nat.repeat, pow_zero, one_mul]
  | succ n ih => rw [Nat.repeat, wordsOver_before h, ih, ← mul_assoc, pow_succ']

theorem wordsOver_letters (cs : Text) (rest : Node × Nat) :
    (cs.foldl (fun rest c => (Numbered.one (.singleton c)).before rest) rest).1.wordsOver v =
      (text cs.reverse).wordsOver v * rest.1.wordsOver v := by
  induction cs generalizing rest with
  | nil => exact (one_mul _).symm
  | cons c cs ih =>
      have hone : ∀ k, (Numbered.one (.singleton c) k).1.wordsOver v = v.one (.singleton c) :=
        fun k => rfl
      rw [List.foldl_cons, ih, wordsOver_before hone, ← mul_assoc, List.reverse_cons, wordsOver,
        wordsOver, List.map_append, List.prod_append, List.map_singleton, List.prod_singleton]

theorem wordsOver_text (t : Text) (k : Nat) :
    (Numbered.text t k).1.wordsOver v = (text t).wordsOver v := by
  unfold Numbered.text
  cases hrev : t.reverse with
  | nil =>
      rw [List.reverse_eq_nil_iff.1 hrev]
      rfl
  | cons c cs =>
      have hone : (Numbered.one (.singleton c) k).1.wordsOver v = v.one (.singleton c) := rfl
      have ht : t = cs.reverse ++ [c] := by rw [← List.reverse_cons, ← hrev, List.reverse_reverse]
      rw [wordsOver_letters, hone, ht, wordsOver, wordsOver, List.map_append, List.prod_append,
        List.map_singleton, List.prod_singleton]

theorem wordsOver_exactly (h : ∀ k, (a k).1.wordsOver v = l) (n k : Nat) :
    (a.exactly n k).1.wordsOver v = l ^ n := by
  cases n with
  | zero => exact (pow_zero l).symm
  | succ n => rw [Numbered.exactly, wordsOver_repeat h, h, pow_succ]

theorem wordsOver_nodeOpt (n : Node) (number : Nat) (greedy : Bool) :
    (Node.opt number greedy n).wordsOver v = 1 + n.wordsOver v := by
  unfold Node.opt
  split
  · exact add_comm _ _
  · rfl

/-- Once more or not at all is the same as not at all or once more. -/
theorem one_add_mul_pow (l : Language σ) (n : Nat) :
    1 + l * (1 + l) ^ n = (1 + l) ^ (n + 1) := by
  induction n with
  | zero => rw [pow_zero, mul_one, zero_add, pow_one]
  | succ n ih =>
      have hpow : (1 + l) ^ n + (1 + l) ^ (n + 1) = (1 + l) ^ (n + 1) := by
        rw [pow_succ, mul_add, mul_one, ← add_assoc, Language.add_self]
      calc 1 + l * (1 + l) ^ (n + 1)
          = 1 + l * ((1 + l) ^ n + (1 + l) ^ (n + 1)) := by rw [hpow]
        _ = (1 + l * (1 + l) ^ n) + l * (1 + l) ^ (n + 1) := by rw [mul_add, add_assoc]
        _ = (1 + l) ^ (n + 1) + l * (1 + l) ^ (n + 1) := by rw [ih]
        _ = (1 + l) ^ (n + 1 + 1) := by rw [pow_succ' _ (n + 1), add_mul, one_mul]

theorem wordsOver_upTo (h : ∀ k, (a k).1.wordsOver v = l) (greedy : Bool) (most k : Nat) :
    (a.upTo greedy most k).1.wordsOver v = (1 + l) ^ most := by
  unfold Numbered.upTo
  induction most with
  | zero => exact (pow_zero _).symm
  | succ most ih =>
      rw [Nat.repeat, wordsOver_nodeOpt, wordsOver_before h, ih, one_add_mul_pow]

theorem wordsOver_nodeStar (n : Node) (number other : Nat) (greedy : Bool) :
    (Node.star number other greedy n).wordsOver v = (n.wordsOver v)∗ := by
  unfold Node.star
  split
  · rw [wordsOver_nodeOpt]
    exact Language.one_add_self_mul_kstar_eq_kstar _
  · rfl

theorem wordsOver_atLeast (h : ∀ k, (a k).1.wordsOver v = l) (greedy : Bool) (low k : Nat) :
    (a.atLeast greedy low k).1.wordsOver v = l ^ low * l∗ := by
  cases low with
  | zero =>
      rw [Numbered.atLeast, wordsOver_nodeStar, h, pow_zero, one_mul]
  | succ low =>
      rw [Numbered.atLeast, wordsOver_repeat h, pow_succ, mul_assoc]
      exact congrArg (fun m => l ^ low * (m * m∗)) (h k)

theorem wordsOver_between (h : ∀ k, (a k).1.wordsOver v = l) (greedy : Bool) (low more k : Nat) :
    (a.between greedy low more k).1.wordsOver v = l ^ low * (1 + l) ^ more := by
  rw [Numbered.between, wordsOver_repeat h, wordsOver_upTo h]

end Numbered

theorem numbered_wordsOver (f : Form) (k : Nat) : (f.numbered k).1.wordsOver v = f.wordsOver v := by
  induction f generalizing k with
  | empty | set | look => rfl
  | text t => exact wordsOver_text t k
  | times low high greedy f ih =>
      cases high with
      | none => exact wordsOver_atLeast ih greedy low k
      | some high =>
          rw [numbered, wordsOver]
          split
          · next heq => rw [wordsOver_exactly ih, heq, Nat.sub_self, pow_zero, mul_one]
          · exact wordsOver_between ih greedy low (high - low) k
  | group index f ih => exact congrArg (fun l => v.mark _ * (l * v.mark _)) (ih k)
  | seq a b iha ihb =>
      exact (wordsOver_before iha (b.numbered k)).trans (congrArg (a.wordsOver v * ·) (ihb k))
  | alt a b iha ihb => exact congrArg₂ (· + ·) (iha _) (ihb k)

/-- The pattern of a form has the words of the form. -/
theorem toNode_wordsOver (f : Form) : f.toNode.wordsOver v = f.wordsOver v :=
  numbered_wordsOver v f 0

/-! ## Rows and alternatives -/

theorem wordsOver_text_cons (c : Char) (t : Text) :
    (text (c :: t)).wordsOver v = v.one (.singleton c) * (text t).wordsOver v := by
  rw [wordsOver, wordsOver, List.map_cons, List.prod_cons]

theorem wordsOver_text_append (s t : Text) :
    (text (s ++ t)).wordsOver v = (text s).wordsOver v * (text t).wordsOver v := by
  rw [wordsOver, wordsOver, wordsOver, List.map_append, List.prod_append]

theorem wordsOver_andThen (a b : Form) :
    (a.andThen b).wordsOver v = a.wordsOver v * b.wordsOver v := by
  induction a, b using andThen.induct with
  | case1 b => exact (one_mul _).symm
  | case2 b x y ihy ihx =>
      rw [andThen, ihx, ihy, ← mul_assoc]
      rfl
  | case3 a hempty hrow =>
      rw [andThen]
      · exact (mul_one _).symm
      · exact hempty
      · exact hrow
  | case4 s t => exact wordsOver_text_append v s t
  | case5 s t more =>
      calc (text (s ++ t)).wordsOver v * more.wordsOver v
          = (text s).wordsOver v * (text t).wordsOver v * more.wordsOver v := by
            rw [wordsOver_text_append]
        _ = (text s).wordsOver v * ((text t).wordsOver v * more.wordsOver v) := mul_assoc _ _ _
  | case6 a b hempty hrow hnone htexts htext =>
      rw [andThen]
      · rfl
      · exact hempty
      · exact hrow
      · exact hnone
      · exact htexts
      · exact htext

theorem wordsOver_inRow (fs : List Form) :
    (inRow fs).wordsOver v = (fs.map (wordsOver v)).prod := by
  induction fs with
  | nil => rfl
  | cons f fs ih =>
      rw [List.map_cons, List.prod_cons, ← ih]
      exact wordsOver_andThen v f (inRow fs)

theorem wordsOver_opt (f : Form) : f.opt.wordsOver v = 1 + f.wordsOver v := by
  rw [opt, wordsOver, pow_zero, one_mul, pow_one]

theorem wordsOver_star (f : Form) : f.star.wordsOver v = (f.wordsOver v)∗ := by
  rw [star, wordsOver, pow_zero, one_mul]

theorem wordsOver_plus (f : Form) : f.plus.wordsOver v = f.wordsOver v * (f.wordsOver v)∗ := by
  rw [plus, wordsOver, pow_one]

end Form

end Emend.Pattern
