import Mathlib.Data.List.Forall2
import Emend.Pattern.Form
/-!
# Patterns of the same build

Two forms of the same build have patterns of the same build, with the same numbers
(`Form.Related.numbered`).  A relation between patterns that is told by their parts
(`Node.Relates`) is so told by the parts of the forms.  It may relate a pattern to itself, and
then it is a property that a pattern has if its parts have it.
-/

namespace Emend.Pattern

/-- A relation between patterns that is told by their parts. -/
structure Node.Relates (R : Node → Node → Prop) : Prop where
  /-- Nothing is related to nothing. -/
  empty : R .empty .empty
  /-- A character is related to itself. -/
  char : ∀ number c, R (.one number (.singleton c)) (.one number (.singleton c))
  /-- Rows are related if their parts are. -/
  seq : ∀ {a b a' b'}, R a a' → R b b' → R (.seq a b) (.seq a' b')
  /-- Alternatives are related if their parts are. -/
  alt : ∀ {a b a' b'} number, R a a' → R b b' → R (.alt number a b) (.alt number a' b')
  /-- Loops are related if their rounds are. -/
  loop : ∀ {r r'} number greedy, R r r' → R (.loop number greedy r) (.loop number greedy r')
  /-- So are loops with a first round. -/
  rounds : ∀ {r r'} number greedy, R r r' → R (.rounds number greedy r) (.rounds number greedy r')
  /-- Related patterns agree on whether they may take nothing. -/
  mayBeEmpty : ∀ {n n'}, R n n' → n.mayBeEmpty = n'.mayBeEmpty

namespace Form

/-- Forms of the same build with related parts. -/
inductive Related (R : Node → Node → Prop) : Form → Form → Prop where
  /-- The empty text. -/
  | empty : Related R empty empty
  /-- A text. -/
  | text (t : Text) : Related R (text t) (text t)
  /-- Sets. -/
  | set {s s' : CharSet} (h : ∀ number, R (.one number s) (.one number s')) :
      Related R (set s) (set s')
  /-- Conditions. -/
  | look {l l' : Look} (h : R (.look l) (.look l')) : Related R (look l) (look l')
  /-- A number of times. -/
  | times {f f' : Form} (low : Nat) (high : Option Nat) (greedy : Bool) (h : Related R f f') :
      Related R (times low high greedy f) (times low high greedy f')
  /-- A group. -/
  | group {f f' : Form} (index : Nat) (hfirst : R (.mark (2 * index)) (.mark (2 * index)))
      (hlast : R (.mark (2 * index + 1)) (.mark (2 * index + 1))) (h : Related R f f') :
      Related R (group index f) (group index f')
  /-- Two in a row. -/
  | seq {a b a' b' : Form} (ha : Related R a a') (hb : Related R b b') :
      Related R (seq a b) (seq a' b')
  /-- Either of two. -/
  | alt {a b a' b' : Form} (ha : Related R a a') (hb : Related R b b') :
      Related R (alt a b) (alt a' b')

/-! ## Numbered patterns -/

section Numbered

variable {R : Node → Node → Prop} (hR : Node.Relates R)

/-- Numbered patterns that are related and use the same numbers. -/
def Numbered.Related (R : Node → Node → Prop) (a b : Numbered) : Prop :=
  ∀ k, R (a k).1 (b k).1 ∧ (a k).2 = (b k).2

variable {a b : Numbered} {x y : Node × Nat}

include hR

theorem related_before (h : a.Related R b) (hx : R x.1 y.1 ∧ x.2 = y.2) :
    R (a.before x).1 (b.before y).1 ∧ (a.before x).2 = (b.before y).2 := by
  obtain ⟨⟨n, k⟩, ⟨n', _⟩⟩ := x, y
  obtain ⟨hn, rfl⟩ := hx
  exact ⟨hR.seq (h k).1 hn, (h k).2⟩

theorem related_repeat (h : a.Related R b) (m : Nat) (hx : R x.1 y.1 ∧ x.2 = y.2) :
    R (Nat.repeat a.before m x).1 (Nat.repeat b.before m y).1 ∧
      (Nat.repeat a.before m x).2 = (Nat.repeat b.before m y).2 := by
  induction m with
  | zero => exact hx
  | succ m ih => exact related_before hR h ih

theorem related_text (t : Text) : (Numbered.text t).Related R (Numbered.text t) := by
  intro k
  refine ⟨?_, rfl⟩
  have hletters : ∀ (cs : Text) (x : Node × Nat), R x.1 x.1 →
      R (cs.foldl (fun rest c => (Numbered.one (.singleton c)).before rest) x).1
        (cs.foldl (fun rest c => (Numbered.one (.singleton c)).before rest) x).1 := by
    intro cs
    induction cs with
    | nil => exact fun x hx => hx
    | cons c cs ih => exact fun x hx => ih _ (hR.seq (hR.char _ c) hx)
  unfold Numbered.text
  cases t.reverse with
  | nil => exact hR.empty
  | cons c cs => exact hletters cs _ (hR.char _ c)

theorem related_exactly (h : a.Related R b) (m : Nat) : (a.exactly m).Related R (b.exactly m) := by
  intro k
  cases m with
  | zero => exact ⟨hR.empty, rfl⟩
  | succ m => exact related_repeat hR h m (h k)

theorem related_opt {n n' : Node} (h : R n n') (number : Nat) (greedy : Bool) :
    R (Node.opt number greedy n) (Node.opt number greedy n') := by
  unfold Node.opt
  split
  · exact hR.alt number h hR.empty
  · exact hR.alt number hR.empty h

theorem related_upTo (h : a.Related R b) (greedy : Bool) (most : Nat) :
    (a.upTo greedy most).Related R (b.upTo greedy most) := by
  intro k
  unfold Numbered.upTo
  induction most with
  | zero => exact ⟨hR.empty, rfl⟩
  | succ most ih =>
      obtain ⟨hn, hk⟩ := related_before hR h ih
      rw [Nat.repeat, Nat.repeat]
      simp only [hk]
      exact ⟨related_opt hR hn _ greedy, trivial⟩

theorem related_star {n n' : Node} (h : R n n') (number other : Nat) (greedy : Bool) :
    R (Node.star number other greedy n) (Node.star number other greedy n') := by
  unfold Node.star
  rw [hR.mayBeEmpty h]
  split
  · exact related_opt hR (hR.rounds other greedy h) number greedy
  · exact hR.loop number greedy h

theorem related_atLeast (h : a.Related R b) (greedy : Bool) (low : Nat) :
    (a.atLeast greedy low).Related R (b.atLeast greedy low) := by
  intro k
  obtain ⟨hn, hk⟩ := h k
  cases low with
  | zero =>
      simp only [Numbered.atLeast, hk]
      exact ⟨related_star hR hn _ _ greedy, trivial⟩
  | succ low =>
      refine related_repeat hR h low ?_
      simp only [hk]
      exact ⟨hR.rounds _ greedy hn, trivial⟩

theorem related_between (h : a.Related R b) (greedy : Bool) (low more : Nat) :
    (a.between greedy low more).Related R (b.between greedy low more) :=
  fun k => related_repeat hR h low (related_upTo hR h greedy more k)

/-- Forms of the same build have related patterns. -/
theorem Related.numbered {f g : Form} (h : Related R f g) : f.numbered.Related R g.numbered := by
  induction h with
  | empty => exact fun k => ⟨hR.empty, rfl⟩
  | text t => exact related_text hR t
  | set h => exact fun k => ⟨h k, rfl⟩
  | look h => exact fun k => ⟨h, rfl⟩
  | times low high greedy _ ih =>
      cases high with
      | none => exact related_atLeast hR ih greedy low
      | some high =>
          intro k
          rw [Form.numbered, Form.numbered]
          split
          · exact related_exactly hR ih low k
          · exact related_between hR ih greedy low (high - low) k
  | group index hfirst hlast _ ih =>
      exact fun k => ⟨hR.seq hfirst (hR.seq (ih k).1 hlast), (ih k).2⟩
  | seq _ _ iha ihb => exact fun k => related_before hR iha (ihb k)
  | @alt a b a' b' _ _ iha ihb =>
      intro k
      obtain ⟨hsecond, hk⟩ := ihb k
      obtain ⟨hfirst, hk'⟩ := iha (b.numbered k).2
      rw [Form.numbered, Form.numbered]
      simp only [← hk, ← hk']
      exact ⟨hR.alt _ hfirst hsecond, trivial⟩

end Numbered

/-! ## Rows and alternatives -/

variable {R : Node → Node → Prop}

/-- Whether a form goes before others as it is. -/
def isPlain : Form → Bool
  | empty | text _ | seq _ _ => false
  | set _ | look _ | times _ _ _ _ | group _ _ | alt _ _ => true

theorem andThen_of_isPlain {a b : Form} (ha : a.isPlain) :
    a.andThen b = if b = empty then a else seq a b := by
  split
  · next hb =>
    subst hb
    cases a <;> first | rfl | exact Bool.noConfusion ha
  · next hb =>
    cases a <;>
      first | exact Bool.noConfusion ha | (cases b <;> first | rfl | exact absurd rfl hb)

theorem Related.andThen_of_isPlain {a a' b b' : Form} (h : a.isPlain) (h' : a'.isPlain)
    (ha : Related R a a') (hb : Related R b b') : Related R (a.andThen b) (a'.andThen b') := by
  have hempty : b = Form.empty ↔ b' = Form.empty := by
    constructor
    · rintro rfl
      cases hb
      rfl
    · rintro rfl
      cases hb
      rfl
  rw [Form.andThen_of_isPlain h, Form.andThen_of_isPlain h']
  by_cases hnone : b = Form.empty
  · rwa [if_pos hnone, if_pos (hempty.1 hnone)]
  · rw [if_neg hnone, if_neg (mt hempty.2 hnone)]
    exact .seq ha hb

theorem Related.andThen {a a' b b' : Form} (ha : Related R a a') (hb : Related R b b') :
    Related R (a.andThen b) (a'.andThen b') := by
  induction ha generalizing b b' with
  | empty => exact hb
  | seq _ _ ihx ihy => exact ihx (ihy hb)
  | text t =>
      have hrow := Related.seq (.text t) hb
      cases hb with
      | empty => exact .text t
      | text t' => exact .text (t ++ t')
      | seq hx hy =>
          cases hx with
          | text t' => exact .seq (.text (t ++ t')) hy
          | _ => exact hrow
      | _ => exact hrow
  | set h => exact (Related.set h).andThen_of_isPlain rfl rfl hb
  | look h => exact (Related.look h).andThen_of_isPlain rfl rfl hb
  | times low high greedy h => exact (Related.times low high greedy h).andThen_of_isPlain rfl rfl hb
  | group index hfirst hlast h =>
      exact (Related.group index hfirst hlast h).andThen_of_isPlain rfl rfl hb
  | alt hx hy => exact (Related.alt hx hy).andThen_of_isPlain rfl rfl hb

theorem Related.opt {f g : Form} (h : Related R f g) : Related R f.opt g.opt :=
  .times 0 (some 1) true h

theorem Related.star {f g : Form} (h : Related R f g) : Related R f.star g.star :=
  .times 0 none true h

theorem Related.plus {f g : Form} (h : Related R f g) : Related R f.plus g.plus :=
  .times 1 none true h

theorem Related.inRow {fs gs : List Form} (h : List.Forall₂ (Related R) fs gs) :
    Related R (inRow fs) (inRow gs) := by
  induction h with
  | nil => exact .empty
  | cons h _ ih => exact h.andThen ih

theorem Related.eitherOf {fs gs : List Form} (h : List.Forall₂ (Related R) fs gs) (hne : fs ≠ []) :
    Related R (eitherOf fs) (eitherOf gs) := by
  induction h with
  | nil => exact absurd rfl hne
  | cons h hs ih =>
      cases hs with
      | nil => exact h
      | cons h' hs => exact .alt h (ih (by simp))

end Form

end Emend.Pattern
