import Emend.Proofs.Match.Declarations
import Emend.Proofs.Pattern.Extension
import Emend.Proofs.Signature.Agreement
import Emend.Proofs.Signature.Alphabets
import Emend.Proofs.Signature.Shapes
import Emend.Proofs.Text.Blanks
/-!
# Headers before a body

A header is located in the same way when a body follows it (`locateFunction_append`,
`locateClass_append`).  Its front is the same, since all that it opens is closed before the brace,
and so are its parameters.  The type of a result ends before the brace, and the blank in front of
this is trimmed.
-/

namespace Emend

open Pattern

variable {n : Pattern.Node} {found : Found} {t : Text} {p : Char → Prop}

/-! ## Shapes -/

/-- A pattern for fronts of headers, which end with characters of some kind. -/
structure IsShape (p : Char → Prop) (n : Pattern.Node) : Prop where
  /-- It starts at the edge of a word and does not note this. -/
  part : n.PartOf [.wordEdge Alphabet.unicode.word]
  /-- Braces are taken only where something is open. -/
  guarded : Guarded n.language
  /-- The last character is of this kind. -/
  ends : Ends p n.language

/-- Being a part is told by the parts. -/
theorem relates_partOf (ls : List Look) : Node.Relates fun a b => a = b ∧ a.PartOf ls where
  empty := ⟨rfl, by simp [Node.looks], by simp [Node.slots]⟩
  char _ _ := ⟨rfl, by simp [Node.looks], by simp [Node.slots]⟩
  seq ha hb := by
    obtain ⟨⟨rfl, ha⟩, ⟨rfl, hb⟩⟩ := ha, hb
    exact ⟨rfl, List.forall_mem_append.2 ⟨ha.looks, hb.looks⟩,
      mt List.mem_append.1 (not_or.2 ⟨ha.slots, hb.slots⟩)⟩
  alt _ ha hb := by
    obtain ⟨⟨rfl, ha⟩, ⟨rfl, hb⟩⟩ := ha, hb
    exact ⟨rfl, List.forall_mem_append.2 ⟨ha.looks, hb.looks⟩,
      mt List.mem_append.1 (not_or.2 ⟨ha.slots, hb.slots⟩)⟩
  loop _ _ h := ⟨by rw [h.1], h.2.looks, h.2.slots⟩
  rounds _ _ h := ⟨by rw [h.1], h.2.looks, h.2.slots⟩
  mayBeEmpty h := by rw [h.1]

theorem Alphabet.relates_partOf (a : Alphabet) :
    a.Relates (fun n m => n = m ∧ n.PartOf [.wordEdge a.word]) a where
  word _ := ⟨rfl, by simp [Node.looks], by simp [Node.slots]⟩
  space _ := ⟨rfl, by simp [Node.looks], by simp [Node.slots]⟩
  wordOr _ _ := ⟨rfl, by simp [Node.looks], by simp [Node.slots]⟩
  given _ _ := ⟨rfl, by simp [Node.looks], by simp [Node.slots]⟩
  others _ _ := ⟨rfl, by simp [Node.looks], by simp [Node.slots]⟩
  edge := ⟨rfl, by simp [Node.looks], by simp [Node.slots]⟩
  mark slot hslot :=
    ⟨rfl, by simp [Node.looks], by simp only [Node.slots, List.mem_singleton]; omega⟩

theorem isShape_toNode {f : Form}
    (hpart : f.Related (fun n m => n = m ∧ n.PartOf [.wordEdge Alphabet.unicode.word]) f)
    (h : Guarded f.language ∧ Ends p f.language) : IsShape p f.toNode := by
  rw [← Form.toNode_language] at h
  exact ⟨(hpart.numbered (relates_partOf _) 0).1.2, h.1, h.2⟩

theorem isShape_funShape : IsShape (· = '(') funShape :=
  isShape_toNode (Alphabet.relates_partOf .unicode).funForm
    (Alphabet.guarded_funForm Alphabet.usual_unicode)

theorem isShape_fnShape : IsShape (· = '(') fnShape :=
  isShape_toNode (Alphabet.relates_partOf .unicode).fnForm
    (Alphabet.guarded_fnForm Alphabet.usual_unicode)

theorem isShape_typedShape : IsShape (· = '(') typedShape :=
  isShape_toNode (Alphabet.relates_partOf .unicode).typedForm
    (Alphabet.guarded_typedForm Alphabet.usual_unicode)

theorem isShape_classShape : IsShape (· ≠ ' ') classShape :=
  isShape_toNode (Alphabet.relates_partOf .unicode).classForm
    (Alphabet.guarded_classForm Alphabet.usual_unicode)

/-- Where a word ends with the text, it ends before a character that is no part of a word, too. -/
theorem holds_wordEdge {word : CharSet} {c : Char} (hc : word.contains c = false)
    (before : Option Char) (offset : Nat) :
    Look.holds ⟨before, none, offset⟩ (.wordEdge word) =
      Look.holds ⟨before, some c, offset⟩ (.wordEdge word) := by
  rw [Look.holds, Look.holds, Look.inWord, Look.inWord, Look.inWord, Option.any_some, hc,
    Option.any_none]

/-- A front at the start of a text that leaves nothing open is the front before a brace, too. -/
theorem IsShape.find_append (rest : Text) (h : IsShape p n) (hp : ¬ p ' ') (ht : ¬ LeavesOpen t)
    (hstart : found.marks.start = 0) :
    find n (t ++ ' ' :: '{' :: rest) = some found ↔ find n t = some found := by
  refine find_append_of_start h.part.slots (fun l hl before offset => ?_) (fun u hu hmem => ?_)
    hstart
  · rw [List.mem_singleton.1 (h.part.looks l hl)]
    exact holds_wordEdge (Alphabet.usual_unicode.word ' ' (by decide)) before offset
  · refine ht (leavesOpen_of_guarded h.guarded (fun w hw => ?_) hu hmem)
    obtain ⟨v, c, hv, hc⟩ := h.ends w hw
    exact ⟨v, c, hv, fun heq => hp (heq ▸ hc)⟩

/-- The front of a function ends with the parenthesis that opens its parameters. -/
theorem IsShape.front (h : IsShape (· = '(') n) (hfound : find n t = some found) :
    ∃ s r, t = s ++ '(' :: r ∧ Text.size (s ++ ['(']) = found.span.stop := by
  obtain ⟨u, v, ht, front, w, hu, -, hw, hstart, hstop⟩ := find_isMatch h.part.slots hfound
  obtain ⟨w, c, rfl, rfl⟩ := h.ends w hw
  refine ⟨front ++ w, v, ?_, ?_⟩
  · rw [ht, hu]
    simp
  · simp [Found.span, Found.group?, Found.slot?, hstart, hstop, hu]

/-! ## Parts of a front -/

/-- A slice between places of a text is the same in a longer text. -/
theorem slice_append {start stop : Nat} (hstart : Text.isBoundary start t = true)
    (hstop : Text.isBoundary stop t = true) (rest : Text) :
    (t ++ rest).slice start stop = t.slice start stop := by
  by_cases hle : start ≤ stop
  · obtain ⟨before, part, after, rfl, hspan⟩ := Span.fits_iff.1 (Span.Fits.mk (s := ⟨start, stop⟩)
      hle hstart hstop)
    injection hspan with hbefore hpart
    subst hbefore hpart
    have hlong := Span.text_append before part (after ++ rest)
    rw [← List.append_assoc] at hlong
    exact hlong.trans (Span.text_append before part after).symm
  · have hnone : ∀ t : Text, t.slice? start stop = none := fun t => by
      unfold Text.slice?
      cases t.splitAt? start with
      | none => rfl
      | some cut => simp [hle]
    rw [Text.slice, Text.slice, hnone, hnone]

theorem groupText_append (h : found.marks.Sound t) (rest : Text) (index : Nat) :
    groupText (t ++ rest) found index = groupText t found index := by
  obtain ⟨stop, -, hwithin, -⟩ := h
  have hplace : ∀ {slot k}, found.slot? slot = some k → Text.isBoundary k t = true := by
    intro slot k hk
    obtain ⟨front, back, hmarks, -⟩ := List.lookup_eq_some_iff.1 hk
    exact (hwithin (slot, k) (by rw [hmarks]; simp)).1
  unfold groupText Found.group?
  cases hfirst : found.slot? (2 * index) with
  | none => rfl
  | some start =>
      cases hlast : found.slot? (2 * index + 1) with
      | none => rfl
      | some last => exact slice_append (hplace hfirst) (hplace hlast) rest

theorem splitAtClosing?_append {depth : Nat} {inside after : Text}
    (h : splitAtClosing? depth t = some (inside, after)) (rest : Text) :
    splitAtClosing? depth (t ++ rest) = some (inside, after ++ rest) := by
  induction t generalizing depth inside with
  | nil => cases h
  | cons c t ih =>
      rw [splitAtClosing?] at h
      rw [List.cons_append, splitAtClosing?]
      split at h
      · next hc =>
        cases h
        rw [if_pos hc]
      · next hc =>
        obtain ⟨⟨front, back⟩, hrest, heq⟩ := Option.map_eq_some_iff.1 h
        cases heq
        simp only [if_neg hc, ih hrest, Option.map_some]

/-! ## The type of a result -/

theorem afterLead?_append {lead u : Text} (hlead : ' ' ∉ lead) (rest : Text) :
    Text.afterLead? lead (u ++ ' ' :: rest) =
      (Text.afterLead? lead u).map (· ++ ' ' :: rest) := by
  refine Option.ext fun after => ?_
  rw [Text.afterLead?_iff, Option.map_eq_some_iff]
  constructor
  · intro h
    rcases append_eq_cut h.symm with ⟨v, rfl, rfl⟩ | ⟨v, rfl⟩
    · exact ⟨v, Text.afterLead?_iff.2 rfl, rfl⟩
    · exact absurd (List.mem_append_right u List.mem_cons_self) hlead
  · rintro ⟨v, hv, rfl⟩
    rw [Text.afterLead?_iff.1 hv, List.append_assoc]

theorem trim_before (stop : Char → Bool) (hspace : stop ' ' = false) (hbrace : stop '{' = true)
    (u rest : Text) :
    Text.trim (Text.before stop (u ++ ' ' :: '{' :: rest)) = Text.trim (Text.before stop u) := by
  have hblank : (' ' :: '{' :: rest).takeWhile (fun c => !stop c) = [' '] := by
    simp [hspace, hbrace]
  rw [Text.before, Text.before, List.takeWhile_append, hblank]
  split
  · next hall =>
    rw [Text.trim_concat (by decide), (List.takeWhile_prefix _).eq_of_length hall]
  · rfl

/-- The type of a result ends before a brace. -/
theorem parseReturnType?_append (t rest : Text) :
    parseReturnType? (t ++ ' ' :: '{' :: rest) = parseReturnType? t := by
  have hblank : (' ' :: '{' :: rest).dropWhile isBlank = '{' :: rest := rfl
  unfold parseReturnType?
  rw [Text.trimStart, Text.trimStart, List.dropWhile_append, hblank]
  cases hstart : t.dropWhile isBlank with
  | nil => rfl
  | cons c u =>
      have hlead : ∀ lead : Text, ' ' ∉ lead → Text.afterLead? lead (c :: u ++ ' ' :: '{' :: rest) =
          (Text.afterLead? lead (c :: u)).map (· ++ ' ' :: '{' :: rest) :=
        fun lead h => afterLead?_append h ('{' :: rest)
      simp only [List.isEmpty_cons, Bool.false_eq_true, if_false, hlead ['-', '>'] (by decide),
        hlead [':'] (by decide)]
      rw [← Option.map_or]
      cases (Text.afterLead? ['-', '>'] (c :: u)).or (Text.afterLead? [':'] (c :: u)) with
      | none => rfl
      | some v =>
          have htrim := trim_before (fun c => c == '{' || c == '=' || c == ';' || c == '\n')
            rfl rfl v rest
          simp only [Option.map_some, htrim]

/-! ## Functions -/

/-- Every parenthesis of a text is closed in it. -/
def ClosesParentheses (t : Text) : Prop :=
  ∀ s r, t = s ++ '(' :: r → (splitAtClosing? 1 r).isSome

instance : DecidablePred ClosesParentheses := fun t =>
  decidable_of_iff (¬ ∃ s r, t = s ++ '(' :: r ∧ ¬ (splitAtClosing? 1 r).isSome) (by
    simp only [ClosesParentheses, not_exists, not_and, not_not])

section Functions

variable (rest : Text) (h : IsShape (· = '(') n) (ht : ClosesParentheses t)
  (hfound : find n t = some found)

include h ht hfound

/-- What follows the front of a function goes on behind the text, its parameters do not. -/
theorem IsShape.parameters : ∃ inside after,
    splitAtClosing? 1 (t.dropBytes found.span.stop) = some (inside, after) ∧
      splitAtClosing? 1 ((t ++ ' ' :: '{' :: rest).dropBytes found.span.stop) =
        some (inside, after ++ ' ' :: '{' :: rest) := by
  obtain ⟨s, r, rfl, hstop⟩ := h.front hfound
  obtain ⟨⟨inside, after⟩, hsplit⟩ := Option.isSome_iff_exists.1 (ht s r rfl)
  have hdrop : ∀ u : Text, (s ++ '(' :: (r ++ u)).dropBytes found.span.stop = r ++ u := fun u => by
    have hcut := Text.dropBytes_size (s ++ ['(']) (r ++ u)
    rwa [hstop, List.append_assoc] at hcut
  refine ⟨inside, after, ?_, ?_⟩
  · have hnil := hdrop []
    rw [List.append_nil] at hnil
    rw [hnil, hsplit]
  · rw [List.append_assoc, List.cons_append, hdrop]
    exact splitAtClosing?_append hsplit _

theorem functionOfKeyword?_append :
    functionOfKeyword? (t ++ ' ' :: '{' :: rest) found = functionOfKeyword? t found := by
  obtain ⟨inside, after, hshort, hlong⟩ := h.parameters rest ht hfound
  have hsound := find_sound hfound
  simp only [functionOfKeyword?, hshort, hlong, bind, Option.bind_some, groupText_append hsound,
    parseReturnType?_append]

theorem functionOfType?_append :
    functionOfType? (t ++ ' ' :: '{' :: rest) found = functionOfType? t found := by
  obtain ⟨inside, after, hshort, hlong⟩ := h.parameters rest ht hfound
  have hsound := find_sound hfound
  simp only [functionOfType?, hshort, hlong, bind, Option.bind_some, groupText_append hsound,
    slice_append (Text.isBoundary_zero t) (Found.fits hsound).start]

end Functions

/-- What has been located at the start of a text is the same. -/
def SameLead {α : Type} (a b : Option (Located α)) : Prop :=
  ∀ x, x.start = 0 → (a = some x ↔ b = some x)

theorem SameLead.earlier {α : Type} {a b a' b' : Option (Located α)} (ha : SameLead a a')
    (hb : SameLead b b') : SameLead (earlier a b) (earlier a' b') := by
  have hlead : ∀ {a b : Option (Located α)} {x : Located α}, x.start = 0 →
      (Emend.earlier a b = some x ↔
        a = some x ∨ b = some x ∧ ∀ y, a = some y → y.start ≠ 0) := by
    intro a b x hx
    cases a with
    | none => simp [Emend.earlier]
    | some a =>
        cases b with
        | none => simp [Emend.earlier]
        | some b =>
            simp only [Emend.earlier]
            split
            · next hle =>
              simp only [Option.some.injEq, forall_eq']
              refine ⟨.inl, fun h => h.elim id fun hlate => ?_⟩
              obtain ⟨rfl, hne⟩ := hlate
              omega
            · next hlt =>
              simp only [Option.some.injEq, forall_eq']
              refine ⟨fun hbx => .inr ⟨hbx, by omega⟩, fun h => h.elim (fun hax => ?_) And.left⟩
              subst hax
              omega
  intro x hx
  rw [hlead hx, hlead hx, ha x hx, hb x hx]
  refine or_congr_right (and_congr_right fun _ => forall_congr' fun y => ?_)
  constructor
  · exact fun h hy hzero => h ((ha y hzero).2 hy) hzero
  · exact fun h hy hzero => h ((ha y hzero).1 hy) hzero

theorem functionOfKeyword?_start {b : Located FunctionSignature}
    (h : functionOfKeyword? t found = some b) : b.start = found.span.start := by
  obtain ⟨⟨inside, after⟩, -, heq⟩ := Option.bind_eq_some_iff.1 h
  cases heq
  rfl

theorem functionOfType?_start {b : Located FunctionSignature}
    (h : functionOfType? t found = some b) : b.start = found.span.start := by
  unfold functionOfType? at h
  simp only [bind] at h
  split at h
  · cases h
  split at h
  · cases h
  · obtain ⟨⟨inside, after⟩, -, heq⟩ := Option.bind_eq_some_iff.1 h
    cases heq
    rfl

theorem IsShape.findSome_append {α : Type} (rest : Text) (h : IsShape (· = '(') n)
    (ht : ¬ LeavesOpen t) {f : Text → Found → Option (Located α)}
    (hstart : ∀ t found b, f t found = some b → b.start = found.span.start)
    (hsame : ∀ found, find n t = some found → f (t ++ ' ' :: '{' :: rest) found = f t found) :
    SameLead (findSome n (f (t ++ ' ' :: '{' :: rest)) (t ++ ' ' :: '{' :: rest))
      (findSome n (f t) t) := by
  intro x hx
  have hmade := fun t => findSome_of_start (f := f t) h.part.slots (hstart t) (t := t) (b := x)
  simp only [hx, and_true] at hmade
  rw [hmade, hmade]
  refine exists_congr fun found => ?_
  constructor
  · rintro ⟨hfound, hzero, hb⟩
    have hfound := (h.find_append rest (by decide) ht hzero).1 hfound
    exact ⟨hfound, hzero, by rw [← hsame found hfound, hb]⟩
  · rintro ⟨hfound, hzero, hb⟩
    exact ⟨(h.find_append rest (by decide) ht hzero).2 hfound, hzero,
      by rw [hsame found hfound, hb]⟩

/-- A function that leads a text leads it before a body, too. -/
theorem locateFunction_append (rest : Text) (hopen : ¬ LeavesOpen t)
    (hclosed : ClosesParentheses t) :
    SameLead (locateFunction (t ++ ' ' :: '{' :: rest)) (locateFunction t) := by
  have hkeyword : ∀ {n}, IsShape (· = '(') n →
      SameLead (findSome n (functionOfKeyword? (t ++ ' ' :: '{' :: rest)) (t ++ ' ' :: '{' :: rest))
        (findSome n (functionOfKeyword? t) t) := fun h =>
    h.findSome_append rest hopen (fun _ _ _ => functionOfKeyword?_start) fun _ =>
      functionOfKeyword?_append rest h hclosed
  have htype := isShape_typedShape.findSome_append rest (f := functionOfType?) hopen
    (fun _ _ _ => functionOfType?_start)
    fun _ => functionOfType?_append rest isShape_typedShape hclosed
  exact ((hkeyword isShape_funShape).earlier (hkeyword isShape_fnShape)).earlier htype

/-! ## Classes -/

/-- A class that leads a text leads it before a body, too, perhaps with other supertypes. -/
theorem locateClass_append (rest : Text) (hopen : ¬ LeavesOpen t) {c : Located ClassSignature}
    (h : locateClass t = some c) (hstart : c.start = 0) (checks : SignatureChecks) :
    ∃ c', locateClass (t ++ ' ' :: '{' :: rest) = some c' ∧ c'.start = 0 ∧
      c'.headerEnd = c.headerEnd ∧ c'.signature.agrees checks c.signature = true := by
  obtain ⟨found, hfound, rfl⟩ := Option.map_eq_some_iff.1 h
  have hslots := isShape_classShape.part.slots
  have hzero : found.marks.start = 0 := by
    rw [← start_find hslots hfound]
    exact hstart
  have hlong := (isShape_classShape.find_append rest (by simp) hopen hzero).2 hfound
  have hsound := find_sound hfound
  refine ⟨_, congrArg (Option.map _) hlong, hstart, rfl, ClassSignature.agrees_iff.2 ?_⟩
  refine ClassSignature.Rewords.agrees checks ⟨?name, ?modifiers⟩
  case name => exact groupText_append hsound _ 2
  case modifiers => simp only [classOfHeader, groupText_append hsound, implies_true]

end Emend
