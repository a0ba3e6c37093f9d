import Emend.Proofs.Pattern.Leaves
import Emend.Proofs.Unicode.CharSets
/-!
# Languages of patterns

The language of a pattern has the texts that it reads if all of its conditions hold.  It says what
a match may look like, and not which of several matches is taken.

These are words whose letters are characters, and of which conditions and marks are no part
(`characters`), so the pattern of a form reads what the form describes (`Form.toNode_language`).
-/

namespace Emend.Pattern

open scoped Computability

/-- The texts of one character of a set. -/
def charTexts (s : CharSet) : Language Char := {w | ∃ c, s.contains c = true ∧ w = [c]}

/-- The texts that a pattern reads. -/
def Node.language : Node → Language Char
  | .empty | .look _ | .mark _ => 1
  | .one _ s => charTexts s
  | .seq a b => a.language * b.language
  | .alt _ a b => a.language + b.language
  | .loop _ _ r => r.language∗
  | .rounds _ _ r => r.language * r.language∗

/-- Sets stand for their characters, and conditions and marks for nothing. -/
def characters : Leaves Char := ⟨charTexts, fun _ => 1, fun _ => 1⟩

theorem Node.language_eq (n : Node) : n.language = n.wordsOver characters := by
  induction n with
  | empty | one | look | mark => rfl
  | seq a b iha ihb => rw [language, wordsOver, iha, ihb]
  | alt _ a b iha ihb => rw [language, wordsOver, iha, ihb]
  | loop _ _ r ih => rw [language, wordsOver, ih]
  | rounds _ _ r ih => rw [language, wordsOver, ih]

/-- The texts that patterns read one after the other. -/
def languageOf (ns : List Node) : Language Char := (ns.map Node.language).prod

theorem languageOf_nil : languageOf [] = 1 := rfl

theorem languageOf_cons (n : Node) (ns : List Node) :
    languageOf (n :: ns) = n.language * languageOf ns := List.prod_cons

namespace Form

/-- The texts that a form describes. -/
def language : Form → Language Char
  | empty | look _ => 1
  | text t => {t}
  | set s => charTexts s
  | times low none _ f => f.language ^ low * f.language∗
  | times low (some high) _ f => f.language ^ low * (1 + f.language) ^ (high - low)
  | group _ f => f.language
  | seq a b => a.language * b.language
  | alt a b => a.language + b.language

theorem charTexts_singleton (c : Char) : charTexts (.singleton c) = {[c]} := by
  ext w
  simp only [charTexts, CharSet.contains_singleton, exists_eq_left]
  rfl

theorem wordsOver_characters_text (t : Text) : (text t).wordsOver characters = {t} := by
  induction t with
  | nil => rfl
  | cons c t ih =>
      rw [wordsOver_text_cons, ih, ← List.singleton_append, singleton_append,
        ← charTexts_singleton]
      rfl

theorem language_eq (f : Form) : f.language = f.wordsOver characters := by
  induction f with
  | empty | set | look => rfl
  | text t => exact (wordsOver_characters_text t).symm
  | times low high greedy f ih =>
      cases high with
      | none => rw [language, wordsOver, ih]
      | some high => rw [language, wordsOver, ih]
  | group index f ih =>
      rw [language, ih]
      exact ((one_mul _).trans (mul_one _)).symm
  | seq a b iha ihb => rw [language, wordsOver, iha, ihb]
  | alt a b iha ihb => rw [language, wordsOver, iha, ihb]

/-- The pattern of a form reads what the form describes. -/
theorem toNode_language (f : Form) : f.toNode.language = f.language := by
  rw [Node.language_eq, language_eq, toNode_wordsOver]

/-! ## Rows and alternatives -/

theorem inRow_language (fs : List Form) : (inRow fs).language = (fs.map language).prod := by
  rw [language_eq, wordsOver_inRow, funext language_eq]

theorem opt_language (f : Form) : f.opt.language = 1 + f.language := by
  rw [language_eq, language_eq, wordsOver_opt]

theorem star_language (f : Form) : f.star.language = f.language∗ := by
  rw [language_eq, language_eq, wordsOver_star]

theorem plus_language (f : Form) : f.plus.language = f.language * f.language∗ := by
  rw [language_eq, language_eq, wordsOver_plus]

theorem mem_eitherOf {fs : List Form} {w : Text} :
    w ∈ (eitherOf fs).language ↔ ∃ f ∈ fs, w ∈ f.language := by
  induction fs with
  | nil =>
      refine iff_of_false ?_ (by simp)
      rintro ⟨c, hc, -⟩
      cases hc
  | cons f fs ih =>
      cases fs with
      | nil => simp [eitherOf]
      | cons g fs =>
          rw [List.exists_mem_cons_iff, ← ih]
          exact Language.mem_add _ _ _

end Form

end Emend.Pattern
