import Emend.Proofs.Pattern.Alike
import Emend.Proofs.Signature.Alphabets
import Emend.Proofs.Signature.Shapes
/-!
# Headers in ASCII

In a text of ASCII, declarations are located as over a small alphabet (`locateFunction_ascii`,
`locateClass_ascii`), since the sets of the shapes are seen only where the text has their
characters.
-/

namespace Emend

open Pattern

namespace Alphabet

/-- The characters of ASCII. -/
def ascii : Alphabet where
  word := CharSet.ofRanges [⟨0x41, 0x5A⟩, ⟨0x61, 0x7A⟩, ⟨0x30, 0x39⟩, ⟨0x5F, 0x5F⟩]
  space := CharSet.ofRanges [⟨0x20, 0x20⟩, ⟨0x9, 0xD⟩]

/-- The first function declared in a text, where its shapes are made of the given characters. -/
def locateFunction (a : Alphabet) (t : Text) : Option (Located FunctionSignature) :=
  earlier
    (earlier (findSome a.funForm.toNode (functionOfKeyword? t) t)
      (findSome a.fnForm.toNode (functionOfKeyword? t) t))
    (findSome a.typedForm.toNode (functionOfType? t) t)

/-- The first class declared in a text, where its shape is made of the given characters. -/
def locateClass (a : Alphabet) (t : Text) : Option (Located ClassSignature) :=
  (find a.classForm.toNode t).map (classOfHeader t)

/-- Sets with the same characters of ASCII. -/
def SameSets (s s' : CharSet) : Prop := ∀ c : Char, c.toNat < 0x80 → s.contains c = s'.contains c

/-- Edges of words with the same characters of ASCII. -/
def SameLooks (l l' : Look) : Prop :=
  ∃ word word', l = .wordEdge word ∧ l' = .wordEdge word' ∧ SameSets word word'

theorem sameSets_word : SameSets unicode.word ascii.word := fun c hc => by
  rw [Bool.eq_iff_iff, unicode, wordSet, CharSet.contains_wordChars hc, ascii,
    CharSet.contains_ofRanges]

theorem sameSets_space : SameSets unicode.space ascii.space := fun c hc => by
  rw [Bool.eq_iff_iff, unicode, spaceSet, CharSet.contains_spaceChars hc, ascii,
    CharSet.contains_ofRanges]

theorem sameSets_wordOr (chars : List Char) :
    SameSets (unicode.word.union (CharSet.ofList chars))
      (ascii.word.union (CharSet.ofList chars)) := by
  intro c hc
  have hvalid : CharSet.Valid ascii.word.ranges := CharSet.valid_ofRanges _
  rw [Bool.eq_iff_iff, CharSet.contains_union usual_unicode.valid (CharSet.valid_ofList chars),
    CharSet.contains_union hvalid (CharSet.valid_ofList chars), sameSets_word c hc]

theorem unseenAmong : UnseenAmong SameSets SameLooks fun c => c.toNat < 0x80 where
  sets s s' c hs hc := hs c hc
  looks := by
    rintro _ _ p ⟨word, word', rfl, rfl, hsame⟩ hbefore hafter
    have hword : ∀ o : Option Char, (∀ c ∈ o, c.toNat < 0x80) →
        Look.inWord word o = Look.inWord word' o := by
      rintro (_ | c) ho
      · rfl
      · exact hsame c (ho c rfl)
    rw [Look.holds, Look.holds, hword _ hbefore, hword _ hafter]

theorem relates_alike : Node.Relates (Node.Alike SameSets SameLooks) where
  empty := .empty
  char number c := .one number fun _ _ => rfl
  seq := .seq
  alt number := .alt number
  loop number greedy := .loop number greedy
  rounds number greedy := .rounds number greedy
  mayBeEmpty h := by
    induction h with
    | seq _ _ iha ihb => rw [Node.mayBeEmpty, Node.mayBeEmpty, iha, ihb]
    | alt _ _ _ iha ihb => rw [Node.mayBeEmpty, Node.mayBeEmpty, iha, ihb]
    | rounds _ _ _ ih => rw [Node.mayBeEmpty, Node.mayBeEmpty, ih]
    | _ => rfl

theorem relates_ascii : Relates (Node.Alike SameSets SameLooks) unicode ascii where
  word number := .one number sameSets_word
  space number := .one number sameSets_space
  wordOr number chars := .one number (sameSets_wordOr chars)
  given number _ := .one number fun _ _ => rfl
  others number _ := .one number fun _ _ => rfl
  edge := .look ⟨_, _, rfl, rfl, sameSets_word⟩
  mark slot _ := .mark slot

end Alphabet

open Alphabet

theorem toNode_alike {f g : Form} (h : f.Related (Node.Alike SameSets SameLooks) g) :
    f.toNode.Alike SameSets SameLooks g.toNode :=
  (h.numbered relates_alike 0).1

variable {t : Text} (ht : ∀ c ∈ t, c.toNat < 0x80)

include ht

theorem locateFunction_ascii : locateFunction t = ascii.locateFunction t := by
  have hfun := findSome_alike unseenAmong (toNode_alike relates_ascii.funForm)
    (functionOfKeyword? t) ht
  have hfn := findSome_alike unseenAmong (toNode_alike relates_ascii.fnForm)
    (functionOfKeyword? t) ht
  have htyped := findSome_alike unseenAmong (toNode_alike relates_ascii.typedForm)
    (functionOfType? t) ht
  rw [locateFunction, funShape, fnShape, typedShape, hfun, hfn, htyped, Alphabet.locateFunction]

theorem locateClass_ascii : locateClass t = ascii.locateClass t := by
  rw [locateClass, classShape, find_alike unseenAmong (toNode_alike relates_ascii.classForm) ht,
    Alphabet.locateClass]

end Emend
