import Emend.Proofs.Pattern.Related
import Emend.Signature.Header
/-!
# Shapes over different alphabets

The shapes are made in the same way whatever the characters of words and the blanks are.  So what
relates the sets of two alphabets relates the patterns of their shapes.
-/

namespace Emend

open Pattern Form

variable {R : Pattern.Node → Pattern.Node → Prop} {a b : Alphabet}

/-- The parts that the shapes of two alphabets are made of are related. -/
structure Alphabet.Relates (R : Pattern.Node → Pattern.Node → Prop) (a b : Alphabet) : Prop where
  /-- Characters of words. -/
  word : ∀ number, R (.one number a.word) (.one number b.word)
  /-- Blanks. -/
  space : ∀ number, R (.one number a.space) (.one number b.space)
  /-- Characters of words and others besides. -/
  wordOr : ∀ number chars, R (.one number (a.word.union (CharSet.ofList chars)))
    (.one number (b.word.union (CharSet.ofList chars)))
  /-- Characters that are given. -/
  given : ∀ number chars, R (.one number (CharSet.ofList chars))
    (.one number (CharSet.ofList chars))
  /-- Characters other than those given. -/
  others : ∀ number chars, R (.one number (CharSet.ofList chars).compl)
    (.one number (CharSet.ofList chars).compl)
  /-- Edges of words. -/
  edge : R (.look (.wordEdge a.word)) (.look (.wordEdge b.word))
  /-- Marks of groups. -/
  mark : ∀ slot, 2 ≤ slot → R (.mark slot) (.mark slot)

namespace Alphabet.Relates

variable (h : Relates R a b)

include h

theorem group {f g : Form} {index : Nat} (hindex : 1 ≤ index) (hf : Related R f g) :
    Related R (.group index f) (.group index g) :=
  .group index (h.mark _ (by omega)) (h.mark _ (by omega)) hf

theorem noneOf (chars : String) : Related R (noneOf chars) (Emend.noneOf chars) :=
  .set fun number => h.others number chars.toList

theorem oneOf (chars : String) : Related R (oneOf chars) (Emend.oneOf chars) :=
  .set fun number => h.given number chars.toList

theorem wordOrForm (chars : String) : Related R (a.wordOr chars) (b.wordOr chars) :=
  .set fun number => h.wordOr number chars.toList

theorem identifierForm : Related R a.identifierForm b.identifierForm := .plus (.set h.word)

theorem blanksForm : Related R a.blanksForm b.blanksForm := .star (.set h.space)

theorem someBlanksForm : Related R a.someBlanksForm b.someBlanksForm := .plus (.set h.space)

theorem between (opening : String) (chars : String) (closing : String) :
    Related R (.inRow [literalForm opening, .star (Emend.noneOf chars), literalForm closing])
      (.inRow [literalForm opening, .star (Emend.noneOf chars), literalForm closing]) :=
  .inRow (.cons (.text _) (.cons (.star (h.noneOf _)) (.cons (.text _) .nil)))

theorem restrictedForm : Related R restrictedForm Emend.restrictedForm :=
  .inRow (.cons (.text _) (.cons (.opt (h.between "(" ")" ")")) .nil))

omit h in
theorem literals (words : List String) :
    List.Forall₂ (Related R) (words.map literalForm) (words.map literalForm) :=
  List.forall₂_map_left_iff.2 (List.forall₂_map_right_iff.2
    (List.forall₂_same.2 fun _ _ => .text _))

theorem headerStart (words : List String) :
    Related R (a.headerStart words) (b.headerStart words) := by
  have hlast : List.Forall₂ (Related R) [Emend.restrictedForm] [Emend.restrictedForm] :=
    .cons h.restrictedForm .nil
  have heither : Related R (.eitherOf (words.map literalForm ++ [Emend.restrictedForm]))
      (.eitherOf (words.map literalForm ++ [Emend.restrictedForm])) :=
    .eitherOf (List.rel_append (literals words) hlast) (by simp)
  refine .inRow (.cons (.look h.edge) (.cons (h.group (Nat.le_refl 1) (.star ?_)) .nil))
  exact .inRow (.cons heither (.cons h.someBlanksForm .nil))

theorem funForm : Related R a.funForm b.funForm := by
  refine .inRow (.cons (h.headerStart _) (.cons (.text _) (.cons h.someBlanksForm (.cons
    (.opt (.inRow (.cons (h.between "<" ">" ">") (.cons h.blanksForm .nil)))) (.cons
    (.opt (.inRow (.cons (.plus (h.wordOrForm _)) (.cons (.text _) .nil)))) (.cons
    (h.group (by decide) h.identifierForm) (.cons h.blanksForm (.cons (.text _) .nil))))))))

theorem fnForm : Related R a.fnForm b.fnForm := by
  refine .inRow (.cons (h.headerStart _) (.cons (.text _) (.cons h.someBlanksForm (.cons
    (h.group (by decide) h.identifierForm) (.cons h.blanksForm (.cons
    (.opt (h.between "<" ">" ">")) (.cons h.blanksForm (.cons (.text _) .nil))))))))

theorem typedForm : Related R a.typedForm b.typedForm := by
  refine .inRow (.cons (h.headerStart _) (.cons (h.group (by decide) (.inRow (.cons
    (.plus (h.wordOrForm _)) (.cons (.opt (h.between "<" ">()" ">")) (.cons
    (.star (.text _)) (.cons (.opt (h.oneOf _)) .nil)))))) (.cons h.someBlanksForm (.cons
    (.opt (h.oneOf _)) (.cons (h.group (by decide) h.identifierForm) (.cons h.blanksForm (.cons
    (.text _) .nil)))))))

theorem classForm : Related R a.classForm b.classForm := by
  have henum : Related R
      (.inRow [literalForm "enum", .opt (.inRow [a.someBlanksForm, literalForm "class"])])
      (.inRow [literalForm "enum", .opt (.inRow [b.someBlanksForm, literalForm "class"])]) :=
    .inRow (.cons (.text _) (.cons
      (.opt (.inRow (.cons h.someBlanksForm (.cons (.text _) .nil)))) .nil))
  have hangles : Related R
      (.inRow [a.blanksForm, literalForm "<", .group 3 (.star (Emend.noneOf ">")), literalForm ">"])
      (.inRow [b.blanksForm, literalForm "<", .group 3 (.star (Emend.noneOf ">")),
        literalForm ">"]) :=
    .inRow (.cons h.blanksForm (.cons (.text _) (.cons
      (h.group (by decide) (.star (h.noneOf _))) (.cons (.text _) .nil))))
  refine .inRow (.cons (h.headerStart _) (.cons (.eitherOf (.cons (.text _) (.cons
    (.text _) (.cons (.text _) (.cons (.text _) (.cons henum (.cons (.text _)
    (.cons (.text _) .nil))))))) (by simp)) (.cons h.someBlanksForm (.cons
    (h.group (by decide) h.identifierForm) (.cons (.opt hangles) .nil)))))

end Alphabet.Relates

end Emend
