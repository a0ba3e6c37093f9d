import Mathlib.Data.Bool.AllAny
import Emend.Proofs.Signature.Brackets
import Emend.Proofs.Text.Words
import Emend.Proofs.Unicode.Blanks
import Emend.Signature.Header
/-!
# Declared parameters and results

A parameter is written as its name, a colon and its type, and a default value may follow
(`DeclaredParameter.text`).  Its name is an identifier, and its type and default are written with
single spaces and with balanced brackets (`IsSpelled`).  Reading the text gives the name and the
type back (`parseParameter?_text`), and the text is one piece of a list
(`DeclaredParameter.isPiece`).

The type of a result is read back from what follows the parameters (`parseReturnType?_text`).
-/

namespace Emend

variable {t : Text} {c : Char}

/-! ## Identifiers -/

/-- A character of a word. -/
def IsWordChar (c : Char) : Prop := Pattern.wordSet.contains c = true

theorem IsWordChar.not_isBlank (h : IsWordChar c) : ¬ isBlank c = true :=
  CharSet.not_isBlank_of_contains_wordChars h

/-- The characters of ASCII that stand around words in a header. -/
def separators : List Char :=
  [' ', ':', '=', '.', '?', '&', '*', '-', '@', '(', ')', '<', '>', '[', ']', '{', '}', ',']

theorem not_isWordChar_separator : ∀ c ∈ separators, ¬ IsWordChar c := by
  intro c hc hword
  have hascii : ∀ c ∈ separators, c.toNat < 0x80 := List.all_iff_forall_prop.1 (by decide)
  have hnone : ∀ c ∈ separators, ¬ ((0x41 ≤ c.toNat ∧ c.toNat ≤ 0x5A) ∨
      (0x61 ≤ c.toNat ∧ c.toNat ≤ 0x7A) ∨ (0x30 ≤ c.toNat ∧ c.toNat ≤ 0x39) ∨ c.toNat = 0x5F) :=
    List.all_iff_forall_prop.1 (by decide)
  have hholds := (CharSet.contains_wordChars (hascii c hc)).1 hword
  simp only [CharSet.holds_cons, CharSet.holds_nil, or_false] at hholds
  have hnot := hnone c hc
  omega

/-- An identifier: a word. -/
structure IsIdentifier (t : Text) : Prop where
  /-- It is not empty. -/
  ne_nil : t ≠ []
  /-- It has the characters of words. -/
  chars : ∀ c ∈ t, IsWordChar c

namespace IsIdentifier

variable (h : IsIdentifier t)

include h

theorem solid : Text.Solid t := fun c hc => (h.chars c hc).not_isBlank

theorem not_mem (hc : c ∈ separators) : c ∉ t :=
  fun hmem => not_isWordChar_separator c hc (h.chars c hmem)

end IsIdentifier

theorem isIdentifier_of_lower (hne : t ≠ []) (h : t.all Char.isLower = true) : IsIdentifier t := by
  refine ⟨hne, fun c hc => ?_⟩
  obtain ⟨hlow, hhigh⟩ := Text.isLower_iff.1 (List.all_eq_true.1 h c hc)
  have hrange : 0x61 ≤ c.toNat ∧ c.toNat ≤ 0x7A := ⟨hlow, hhigh⟩
  refine (CharSet.contains_wordChars (by omega)).2 ?_
  rw [CharSet.holds_cons, CharSet.holds_cons]
  exact .inr (.inl hrange)

/-! ## Types and default values -/

/-- A text as types and default values are written: with single spaces between its words, and with
balanced brackets. -/
structure IsSpelled (t : Text) : Prop where
  /-- It is not empty. -/
  ne_nil : t ≠ []
  /-- It is trimmed, and each blank in it is one space. -/
  spaced : Text.join [' '] (Text.words t) = t
  /-- Its brackets are balanced, and it has no comma outside of them. -/
  brackets : IsPiece t
  /-- Its parentheses are balanced. -/
  parens : openParens? 0 t = some 0

/-- A text as types are written. -/
structure IsType (t : Text) : Prop extends IsSpelled t where
  /-- It has no equals sign. -/
  noEquals : '=' ∉ t
  /-- None of its words is an annotation. -/
  noAnnotation : ∀ w ∈ Text.words t, w.head? ≠ some '@'

/-- A text as the types of results are written. -/
structure IsResult (t : Text) : Prop extends IsType t where
  /-- It has no brace. -/
  noBrace : '{' ∉ t
  /-- It has no semicolon. -/
  noSemicolon : ';' ∉ t
  /-- It has one line. -/
  noFeed : '\n' ∉ t
  /-- It has no condition. -/
  noCondition : ¬ " where ".toList <:+: t

instance : DecidablePred IsSpelled := fun t =>
  decidable_of_iff (t ≠ [] ∧ Text.join [' '] (Text.words t) = t ∧ openBrackets? 0 ' ' t = some 0 ∧
      openParens? 0 t = some 0)
    ⟨fun h => ⟨h.1, h.2.1, h.2.2.1, h.2.2.2⟩, fun h => ⟨h.ne_nil, h.spaced, h.brackets, h.parens⟩⟩

instance : DecidablePred IsType := fun t =>
  decidable_of_iff (IsSpelled t ∧ '=' ∉ t ∧ ∀ w ∈ Text.words t, w.head? ≠ some '@')
    ⟨fun h => ⟨h.1, h.2.1, h.2.2⟩, fun h => ⟨h.toIsSpelled, h.noEquals, h.noAnnotation⟩⟩

instance : DecidablePred IsResult := fun t =>
  decidable_of_iff (IsType t ∧ '{' ∉ t ∧ ';' ∉ t ∧ '\n' ∉ t ∧
      (Text.breakOn? " where ".toList t).isNone = true) (by
    rw [Option.isNone_iff_eq_none, Text.breakOn?_eq_none_iff]
    exact ⟨fun h => ⟨h.1, h.2.1, h.2.2.1, h.2.2.2.1, h.2.2.2.2⟩,
      fun h => ⟨h.toIsType, h.noBrace, h.noSemicolon, h.noFeed, h.noCondition⟩⟩)

namespace IsSpelled

variable (h : IsSpelled t)

include h

theorem words_ne_nil : Text.words t ≠ [] := fun hnil => by
  have hspaced := h.spaced
  rw [hnil] at hspaced
  exact h.ne_nil hspaced.symm

theorem trim : Text.trim t = t := by
  rw [← h.spaced]
  exact Text.trim_join fun _ hw => Text.mem_words hw

end IsSpelled

/-! ## Parameters -/

/-- A parameter as it is declared. -/
structure DeclaredParameter where
  /-- Its name. -/
  name : Text
  /-- Its type. -/
  type : Text
  /-- Its default value, if it has one. -/
  default : Option Text
  /-- The name is an identifier. -/
  isName : IsIdentifier name
  /-- The type is written as types are. -/
  isType : IsType type
  /-- The default value is written in the same way. -/
  isDefault : ∀ d ∈ default, IsSpelled d

namespace DeclaredParameter

variable (p : DeclaredParameter)

/-- The parameter without its default value. -/
def parameter : Parameter := ⟨p.name, p.type⟩

/-- The text of the default value. -/
def defaultText : Text := (p.default.map fun d => [' ', '=', ' '] ++ d).getD []

/-- The text of the parameter. -/
def text : Text := p.name ++ [':', ' '] ++ p.type ++ p.defaultText

/-- The words of the name and the type. -/
def lead : List Text := (p.name ++ [':']) :: Text.words p.type

/-- The words of the default value. -/
def tail : List Text := (p.default.map fun d => ['='] :: Text.words d).getD []

theorem solid_name : p.name ++ [':'] ≠ [] ∧ Text.Solid (p.name ++ [':']) := by
  refine ⟨by simp, List.forall_mem_append.2 ⟨p.isName.solid, ?_⟩⟩
  exact List.forall_mem_singleton.2 (by decide)

theorem solid_lead : ∀ w ∈ p.lead, w ≠ [] ∧ Text.Solid w :=
  List.forall_mem_cons.2 ⟨p.solid_name, fun _ hw => Text.mem_words hw⟩

theorem solid_tail : ∀ w ∈ p.tail, w ≠ [] ∧ Text.Solid w := by
  unfold tail
  cases p.default with
  | none => exact List.forall_mem_nil _
  | some d =>
      refine List.forall_mem_cons.2 ⟨⟨by simp, ?_⟩, fun _ hw => Text.mem_words hw⟩
      exact List.forall_mem_singleton.2 (by decide)

theorem join_lead : Text.join [' '] p.lead = p.name ++ [':', ' '] ++ p.type := by
  rw [lead, Text.join_cons _ _ p.isType.words_ne_nil, p.isType.spaced]
  simp

theorem text_eq_join : p.text = Text.join [' '] (p.lead ++ p.tail) := by
  have hlead : p.lead ≠ [] := List.cons_ne_nil _ _
  rw [text, defaultText, tail]
  cases hdefault : p.default with
  | none =>
      have hnil : p.lead ++ (Option.map (fun d => ['='] :: Text.words d) none).getD [] = p.lead :=
        List.append_nil _
      rw [hnil, p.join_lead]
      exact List.append_nil _
  | some d =>
      have hd := p.isDefault d hdefault
      simp only [Option.map_some, Option.getD_some]
      rw [Text.join_append_of_ne_nil _ hlead (List.cons_ne_nil _ _), p.join_lead,
        Text.join_cons _ _ hd.words_ne_nil, hd.spaced]
      simp

theorem words_text : Text.words p.text = p.lead ++ p.tail := by
  rw [p.text_eq_join]
  exact Text.words_join (List.forall_mem_append.2 ⟨p.solid_lead, p.solid_tail⟩)

/-- No word of the name and the type is an annotation. -/
theorem filter_lead : p.lead.filter (fun w => w.head? ≠ some '@') = p.lead := by
  refine List.filter_eq_self.2 (List.forall_mem_cons.2 ⟨?_, fun w hw => ?_⟩)
  · obtain ⟨c, rest, hname⟩ := List.exists_cons_of_ne_nil p.isName.ne_nil
    have hc : c ≠ '@' := fun heq =>
      p.isName.not_mem (c := '@') (by decide) (by rw [hname, heq]; exact List.mem_cons_self)
    simpa [hname] using hc
  · simpa using p.isType.noAnnotation w hw

theorem noEquals : '=' ∉ p.name ++ [':', ' '] ++ p.type := by
  simp only [List.mem_append, not_or]
  exact ⟨⟨p.isName.not_mem (by decide), by decide⟩, p.isType.noEquals⟩

/-- Up to the equals sign, the words that are kept are those of the name and the type. -/
theorem trim_before : Text.trim (Text.before (· == '=')
    (Text.join [' '] ((p.lead ++ p.tail).filter fun w => w.head? ≠ some '@'))) =
      p.name ++ [':', ' '] ++ p.type := by
  have hstops : ∀ c ∈ p.name ++ [':', ' '] ++ p.type, (!(c == '=')) = true := by
    intro c hc
    have hne : c ≠ '=' := fun heq => p.noEquals (heq ▸ hc)
    simpa using hne
  have htrim : Text.trim (p.name ++ [':', ' '] ++ p.type) = p.name ++ [':', ' '] ++ p.type := by
    rw [← p.join_lead]
    exact Text.trim_join p.solid_lead
  rw [List.filter_append, p.filter_lead, tail]
  cases p.default with
  | none =>
      rw [Option.map_none, Option.getD_none, List.filter_nil, List.append_nil, p.join_lead,
        Text.before, List.takeWhile_eq_self_iff.2 hstops, htrim]
  | some d =>
      have hlead : p.lead ≠ [] := List.cons_ne_nil _ _
      obtain ⟨rest, hrest⟩ : ∃ rest, Text.join [' '] ((['='] :: Text.words d).filter
          fun w => w.head? ≠ some '@') = '=' :: rest := by
        rw [List.filter_cons_of_pos (by decide)]
        cases (Text.words d).filter fun w => decide (w.head? ≠ some '@') with
        | nil => exact ⟨[], rfl⟩
        | cons w ws => exact ⟨[' '] ++ Text.join [' '] (w :: ws), rfl⟩
      rw [Option.map_some, Option.getD_some,
        Text.join_append_of_ne_nil _ hlead (by rw [List.filter_cons_of_pos (by decide)]; simp),
        hrest, p.join_lead, Text.before, List.takeWhile_append_of_pos
          (List.forall_mem_append.2 ⟨hstops, List.forall_mem_singleton.2 (by decide)⟩),
        List.takeWhile_cons_of_neg (by decide), List.append_nil, Text.trim_concat (by decide),
        htrim]

theorem splitAtColon?_name {name : Text} (h : ':' ∉ name) {prev : Char} (hprev : prev ≠ ':')
    (rest : Text) : splitAtColon? prev (name ++ [':', ' '] ++ rest) = some (name, ' ' :: rest) := by
  induction name generalizing prev with
  | nil => exact if_pos ⟨rfl, hprev, by simp⟩
  | cons c name ih =>
      obtain ⟨hc, hname⟩ := not_or.1 (mt List.mem_cons.2 h)
      rw [List.cons_append, List.cons_append, splitAtColon?, if_neg (fun hcond => hc hcond.1.symm),
        ih hname (Ne.symm hc)]
      rfl

/-- A parameter is read back from its text. -/
theorem parseParameter?_text : parseParameter? p.text = some p.parameter := by
  have hspace : ' ' ≠ ':' := by decide
  have hcolon := splitAtColon?_name (p.isName.not_mem (c := ':') (by decide)) hspace p.type
  have hwords : Text.words p.name = [p.name] := by
    have hword : ∀ w ∈ [p.name], w ≠ [] ∧ Text.Solid w :=
      List.forall_mem_singleton.2 ⟨p.isName.ne_nil, p.isName.solid⟩
    exact Text.words_join hword
  have hreferences : dropReferences p.name = p.name := by
    obtain ⟨c, rest, hname⟩ := List.exists_cons_of_ne_nil p.isName.ne_nil
    have hmem : c ∈ p.name := by rw [hname]; exact List.mem_cons_self
    have hand : c ≠ '&' := fun heq => p.isName.not_mem (by decide) (heq ▸ hmem)
    have hstar : c ≠ '*' := fun heq => p.isName.not_mem (by decide) (heq ▸ hmem)
    rw [hname]
    exact List.dropWhile_cons_of_neg (by simp [hand, hstar])
  have hsome : (p.name ++ [':', ' '] ++ p.type).isEmpty = false := by simp
  rw [parseParameter?, p.words_text]
  simp only [p.trim_before, hsome, Bool.false_eq_true, if_false, hcolon, hwords,
    List.getLastD_cons, List.getLastD_nil, hreferences, Text.trim_cons (c := ' ') (by decide),
    p.isType.trim]
  rfl

theorem isPiece_text : IsPiece p.text := by
  have hname : openBrackets? 0 ' ' p.name = some 0 := by
    have hsubset : delimiters ⊆ separators := by decide
    exact openBrackets?_of_not_mem (fun c hc => p.isName.not_mem (hsubset hc)) 0 ' '
  have hcolon : ∀ prev, openBrackets? 0 prev [':', ' '] = some 0 := fun _ => rfl
  have hequals : ∀ prev, openBrackets? 0 prev [' ', '=', ' '] = some 0 := fun _ => rfl
  have htype : openBrackets? 0 ' ' p.type = some 0 := p.isType.brackets
  have hdeclared : openBrackets? 0 ' ' (p.name ++ [':', ' '] ++ p.type) = some 0 := by
    rw [openBrackets?_append, openBrackets?_append, hname, Option.bind_some, hcolon,
      Option.bind_some]
    simpa using htype
  unfold IsPiece text defaultText
  rw [openBrackets?_append, hdeclared, Option.bind_some]
  cases hdefault : p.default with
  | none => rfl
  | some d =>
      have hd : openBrackets? 0 ' ' d = some 0 := (p.isDefault d hdefault).brackets
      simp only [Option.map_some, Option.getD_some]
      rw [openBrackets?_append, hequals, Option.bind_some]
      exact hd

theorem parens_text : openParens? 0 p.text = some 0 := by
  have hname : openParens? 0 p.name = some 0 :=
    openParens?_of_not_mem (p.isName.not_mem (by decide)) (p.isName.not_mem (by decide)) 0
  have hcolon : openParens? 0 [':', ' '] = some 0 := rfl
  have hequals : openParens? 0 [' ', '=', ' '] = some 0 := rfl
  unfold text defaultText
  rw [openParens?_append, openParens?_append, openParens?_append, hname, Option.bind_some, hcolon,
    Option.bind_some, p.isType.parens, Option.bind_some]
  cases hdefault : p.default with
  | none => rfl
  | some d =>
      simp only [Option.map_some, Option.getD_some]
      rw [openParens?_append, hequals, Option.bind_some, (p.isDefault d hdefault).parens]

/-- The text of a list of parameters. -/
def listText (ps : List DeclaredParameter) : Text := Text.join [',', ' '] (ps.map text)

/-- Parameters are read back from the text of their list. -/
theorem parseParameters_listText (ps : List DeclaredParameter) :
    parseParameters (listText ps) = ps.map parameter := by
  have hpieces : ∀ t ∈ ps.map text, IsPiece t ∧ Text.trim t = t ∧ t ≠ [] := by
    intro t ht
    obtain ⟨p, -, rfl⟩ := List.mem_map.1 ht
    refine ⟨p.isPiece_text, ?_, ?_⟩
    · rw [p.text_eq_join]
      exact Text.trim_join (List.forall_mem_append.2 ⟨p.solid_lead, p.solid_tail⟩)
    · simp [text]
  rw [parseParameters, listText, splitTopLevel_join hpieces, List.filterMap_map]
  exact List.filterMap_eq_map_iff_forall_eq_some.2 fun p _ => p.parseParameter?_text

theorem parens_listText (ps : List DeclaredParameter) : openParens? 0 (listText ps) = some 0 := by
  induction ps with
  | nil => rfl
  | cons p ps ih =>
      cases ps with
      | nil => exact p.parens_text
      | cons q ps =>
          have hcomma : openParens? 0 [',', ' '] = some 0 := rfl
          have hlist : listText (p :: q :: ps) = p.text ++ [',', ' '] ++ listText (q :: ps) := rfl
          rw [hlist, openParens?_append, openParens?_append, p.parens_text, Option.bind_some,
            hcomma, Option.bind_some, ih]

end DeclaredParameter

/-! ## Results -/

/-- What follows the parameters: the type of the result, if there is one, and the brace of the
body. -/
def resultText (result : Option Text) : Text :=
  (result.map fun r => [':', ' '] ++ r).getD [] ++ [' ', '{']

/-- The type of the result is read back. -/
theorem parseReturnType?_resultText {result : Option Text} (h : ∀ r ∈ result, IsResult r) :
    parseReturnType? (resultText result) = result := by
  cases result with
  | none => decide
  | some r =>
      have hr := h r rfl
      have hresult : resultText (some r) = ':' :: ' ' :: (r ++ [' ', '{']) := by
        simp [resultText]
      have hstops : ∀ c ∈ ' ' :: (r ++ [' ']), (!(c == '{' || c == '=' || c == ';' || c == '\n')) =
          true := by
        have hall : ∀ c ∈ r, c ≠ '{' ∧ c ≠ '=' ∧ c ≠ ';' ∧ c ≠ '\n' := fun c hc =>
          ⟨fun heq => hr.noBrace (heq ▸ hc), fun heq => hr.noEquals (heq ▸ hc),
            fun heq => hr.noSemicolon (heq ▸ hc), fun heq => hr.noFeed (heq ▸ hc)⟩
        refine List.forall_mem_cons.2 ⟨by decide, List.forall_mem_append.2 ⟨fun c hc => ?_, ?_⟩⟩
        · simp [hall c hc]
        · exact List.forall_mem_singleton.2 (by decide)
      have hbefore : Text.before (fun c => c == '{' || c == '=' || c == ';' || c == '\n')
          (' ' :: (r ++ [' ', '{'])) = ' ' :: (r ++ [' ']) := by
        have hsplit : ' ' :: (r ++ [' ', '{']) = ' ' :: (r ++ [' ']) ++ ['{'] := by simp
        rw [hsplit, Text.before, List.takeWhile_append_of_pos hstops,
          List.takeWhile_cons_of_neg (by decide), List.append_nil]
      have htrim : Text.trim (' ' :: (r ++ [' '])) = r := by
        rw [Text.trim_cons (by decide), Text.trim_concat (by decide), hr.trim]
      have hcondition : Text.breakOn? " where ".toList r = none :=
        Text.breakOn?_eq_none_iff.2 hr.noCondition
      have hstart : Text.trimStart (resultText (some r)) = ':' :: ' ' :: (r ++ [' ', '{']) := by
        rw [hresult]
        exact Text.trimStart_cons (by decide) _
      have hlead : (Text.afterLead? ['-', '>'] (':' :: ' ' :: (r ++ [' ', '{']))).or
          (Text.afterLead? [':'] (':' :: ' ' :: (r ++ [' ', '{']))) =
            some (' ' :: (r ++ [' ', '{'])) := rfl
      rw [parseReturnType?]
      simp only [hstart, hlead, hbefore, htrim, hcondition]
      simp [hr.ne_nil]

end Emend
