import Emend.Proofs.Match.Strategies
/-!
# Cuts of headers

A header is found by a search for a pattern, so it ends at a place of the text.  It is taken apart
from there on: at the parenthesis that closes a list of parameters, at single colons and where a
type ends.  Each of these is a character that has just been found, so every cut is at a place, and
what is cut out is what the search takes (`Checked.locateFunction_ok`, `Checked.locateClass_ok`).

A header that has been found ends at a place, too (`locateFunction_end`, `locateClass_end`).
-/

namespace Emend

/-! ## Characters at which a header is cut -/

theorem splitAtClosing?_eq_some {depth : Nat} {t inside after : Text}
    (h : splitAtClosing? depth t = some (inside, after)) : t = inside ++ ')' :: after := by
  induction t generalizing depth inside with
  | nil => cases h
  | cons c t ih =>
      rw [splitAtClosing?] at h
      split at h
      · next hc =>
        cases h
        rw [hc.1]
        rfl
      · obtain ⟨⟨front, back⟩, hrest, heq⟩ := Option.map_eq_some_iff.1 h
        cases heq
        rw [ih hrest]
        rfl

theorem splitAtColon?_eq_some {prev : Char} {t before after : Text}
    (h : splitAtColon? prev t = some (before, after)) : t = before ++ ':' :: after := by
  induction t generalizing prev before with
  | nil => cases h
  | cons c t ih =>
      rw [splitAtColon?] at h
      split at h
      · next hc =>
        cases h
        rw [hc.1]
        rfl
      · obtain ⟨⟨front, back⟩, hrest, heq⟩ := Option.map_eq_some_iff.1 h
        cases heq
        rw [ih hrest]
        rfl

namespace Checked

/-- What follows a character of ASCII starts one byte behind it. -/
theorem cut_behind_ascii (before after : Text) {c : Char} (hc : c.utf8Size = 1) :
    cut (Text.size before + 1) (before ++ c :: after) = .ok (before ++ [c], after) := by
  have hcut := cut_ok (before ++ [c]) after
  rwa [Text.size_concat, hc, List.append_assoc] at hcut

theorem slice_before (p : Char → Bool) (t : Text) :
    slice t ⟨0, Text.size (Text.before p t)⟩ = .ok (Text.before p t) := by
  have hslice := slice_zero (Text.before p t) (t.dropWhile fun c => !p c)
  rwa [Text.before, List.takeWhile_append_dropWhile] at hslice

theorem afterFirst_ok (needle t : Text) :
    afterFirst needle t = .ok ((Text.breakOn? needle t).map Prod.snd) := by
  unfold afterFirst offset?
  cases hbreak : Text.breakOn? needle t with
  | none => rfl
  | some parts =>
      obtain ⟨before, after⟩ := parts
      rw [Option.map_some, Option.mapM_some, ← Text.size_append, Text.breakOn?_eq_some hbreak,
        cut_ok]
      rfl

theorem slice_beforeFirst (needle t : Text) :
    slice t ⟨0, (offset? needle t).getD (Text.size t)⟩ =
      .ok (match Text.breakOn? needle t with
        | some (before, _) => before
        | none => t) := by
  unfold offset?
  cases hbreak : Text.breakOn? needle t with
  | none =>
      have hwhole := slice_zero t []
      rwa [List.append_nil] at hwhole
  | some parts =>
      have hcut := Text.breakOn?_eq_some hbreak
      rw [List.append_assoc] at hcut
      exact hcut ▸ slice_zero parts.1 _

theorem closingParen_ok (before rest : Text) :
    closingParen (before ++ rest) (Text.size before) =
      .ok ((splitAtClosing? 1 rest).map fun (inside, _) =>
        Text.size before + Text.size inside) := by
  rw [closingParen, cut_ok]
  rfl

/-- The text is cut before and behind the parenthesis that closes. -/
theorem cuts_of_closing (before : Text) {rest inside after : Text}
    (h : splitAtClosing? 1 rest = some (inside, after)) :
    slice (before ++ rest) ⟨Text.size before, Text.size before + Text.size inside⟩ = .ok inside ∧
      cut (Text.size before + Text.size inside + 1) (before ++ rest) =
        .ok (before ++ inside ++ [')'], after) := by
  rw [splitAtClosing?_eq_some h, ← List.append_assoc]
  refine ⟨slice_append before inside _, ?_⟩
  rw [← Text.size_append]
  exact cut_behind_ascii _ after rfl

/-! ## Parameters and results -/

/-- A single colon at a place is told by the characters there. -/
theorem isSingleColon_place (head t : Text) (c : Char) :
    isSingleColon (head ++ c :: t) (Text.size head) =
      decide (c = ':' ∧ head.getLastD ' ' ≠ ':' ∧ t.head? ≠ some ':') := by
  have hbefore : (Text.size head == 0 || !byteIs (head ++ c :: t) (Text.size head - 1) ':') =
      decide (head.getLastD ' ' ≠ ':') := by
    by_cases hnil : head = []
    · subst hnil
      rfl
    · have hlast := byteIs_before (c := ':') (by decide) head (c :: t) hnil
      have hsize : Text.size head ≠ 0 := mt Text.eq_nil_of_size hnil
      rw [Bool.eq_iff_iff]
      simp [hsize, ← Bool.not_eq_true, hlast, List.getLastD_eq_getLast?,
        List.getLast?_eq_some_getLast hnil]
  rw [isSingleColon, byteIs_cons (by decide), hbefore]
  by_cases hc : c = ':'
  · rw [hc, byteIs_next (by decide) rfl]
    simp
  · simp [hc]

/-- Of the bytes of a character, none but the first one is a colon. -/
theorem isSingleColon_inside (head t : Text) (c : Char) {n : Nat}
    (hn : n ∈ List.range' (Text.size head) c.utf8Size)
    (h : isSingleColon (head ++ c :: t) n = true) :
    n = Text.size head := by
  obtain ⟨k, hk, rfl⟩ := List.mem_range'.1 hn
  simp only [isSingleColon, Bool.and_eq_true, Nat.one_mul] at h
  rw [((byteIs_inside (by decide) hk).1 h.1.1).1]
  rfl

/-- The first single colon behind a place, byte by byte. -/
theorem find?_isSingleColon (head t : Text) :
    (List.range' (Text.size head) (Text.size t)).find? (isSingleColon (head ++ t)) =
      (splitAtColon? (head.getLastD ' ') t).map fun (before, _) => Text.size (head ++ before) := by
  induction t generalizing head with
  | nil => rfl
  | cons c t ih =>
      have hrest := ih (head ++ [c])
      rw [Text.size_concat, List.append_assoc, List.singleton_append, List.getLastD_concat] at hrest
      rw [Text.size, ← List.range'_append_1, List.find?_append, hrest, splitAtColon?]
      have hplace := isSingleColon_place head t c
      split
      · next hcolon =>
        rw [decide_eq_true hcolon] at hplace
        rw [hcolon.1] at hplace ⊢
        have hone : List.range' (Text.size head) (':' : Char).utf8Size = [Text.size head] := rfl
        rw [hone, List.find?_cons, hplace]
        simp
      · next hcolon =>
        rw [decide_eq_false hcolon] at hplace
        have hnone : (List.range' (Text.size head) c.utf8Size).find?
            (isSingleColon (head ++ c :: t)) = none := by
          refine List.find?_eq_none.2 fun n hn hyes => ?_
          rw [isSingleColon_inside head t c hn hyes, hplace] at hyes
          cases hyes
        rw [hnone, Option.none_or, Option.map_map]
        simp [Function.comp_def]

theorem singleColon?_eq (t : Text) :
    singleColon? t = (splitAtColon? ' ' t).map fun (before, _) => Text.size before := by
  rw [singleColon?, List.range_eq_range']
  exact find?_isSingleColon [] t

theorem parseParameter_ok (part : Text) : parseParameter part = .ok (parseParameter? part) := by
  unfold parseParameter parseParameter?
  dsimp only
  generalize Text.trim (Text.before (· == '=') _) = declared
  split
  · rfl
  rw [singleColon?_eq]
  cases hcolon : splitAtColon? ' ' declared with
  | none => rfl
  | some parts =>
      obtain ⟨before, after⟩ := parts
      rw [splitAtColon?_eq_some hcolon]
      simp only [Option.map_some, cut_ok, cut_behind_ascii (c := ':') before after rfl, bind,
        Except.bind]
      rfl

theorem parseParameters_ok (t : Text) : parseParameters t = .ok (Emend.parseParameters t) := by
  rw [parseParameters, mapM_ok fun part _ => parseParameter_ok part, Emend.parseParameters]
  simp only [bind, Except.bind, List.filterMap_map]
  rfl

theorem parseReturnType_ok (after : Text) :
    parseReturnType after = .ok (parseReturnType? after) := by
  unfold parseReturnType parseReturnType?
  dsimp only
  cases (Text.afterLead? ['-', '>'] (Text.trimStart after)).or _ with
  | none => rfl
  | some rest =>
      simp only [slice_before, bind, Except.bind]
      rfl

/-! ## Functions -/

variable {t : Text} {found : Pattern.Found}

theorem findSome_ok {β : Type} (n : Pattern.Node) {f : Pattern.Found → Except Span (Option β)}
    {g : Pattern.Found → Option β}
    (h : ∀ found : Pattern.Found, found.marks.Sound t → f found = .ok (g found)) :
    findSome n f t = .ok (Pattern.findSome n g t) := by
  unfold findSome
  dsimp only
  rw [Pattern.findSome_congr n g _ Except.ok t fun found hs => ?_]
  · cases Pattern.findSome n g t <;> rfl
  · rw [h found hs]
    cases g found <;> rfl

/-- Behind a sound match the text can be cut. -/
theorem cut_behind (h : found.marks.Sound t) : ∃ before after, t = before ++ after ∧
    Text.size before = found.span.stop ∧ cut found.span.stop t = .ok (before, after) ∧
      t.dropBytes found.span.stop = after := by
  obtain ⟨before, after, rfl, hsize⟩ := Text.isBoundary_iff.1 (Pattern.Found.fits h).stop
  refine ⟨before, after, rfl, hsize, ?_, ?_⟩
  · rw [← hsize, cut_ok]
  · rw [← hsize, Text.dropBytes_size]

theorem functionOfKeyword_ok (h : found.marks.Sound t) :
    functionOfKeyword t found = .ok (functionOfKeyword? t found) := by
  obtain ⟨before, rest, rfl, hstop, -, hdrop⟩ := cut_behind h
  rw [← hstop] at hdrop
  simp only [functionOfKeyword, functionOfKeyword?, ← hstop, hdrop, closingParen_ok, bind,
    Except.bind]
  cases hsplit : splitAtClosing? 1 rest with
  | none => rfl
  | some parts =>
      obtain ⟨inside, after⟩ := parts
      obtain ⟨hinside, hafter⟩ := cuts_of_closing before hsplit
      simp only [Option.map_some, hinside, hafter, parseParameters_ok, parseReturnType_ok]
      rfl

theorem functionOfType_ok (h : found.marks.Sound t) :
    functionOfType t found = .ok (functionOfType? t found) := by
  obtain ⟨before, rest, rfl, hstop, -, hdrop⟩ := cut_behind h
  rw [← hstop] at hdrop
  have hfront : Span.Fits ⟨0, found.span.start⟩ (before ++ rest) :=
    ⟨Nat.zero_le _, Text.isBoundary_zero _, (Pattern.Found.fits h).start⟩
  simp only [functionOfType, functionOfType?, slice_ok hfront, Span.text, ← hstop, hdrop,
    closingParen_ok, bind, Except.bind]
  split
  · rfl
  split
  · rfl
  cases hsplit : splitAtClosing? 1 rest with
  | none => rfl
  | some parts =>
      obtain ⟨inside, after⟩ := parts
      simp only [Option.map_some, (cuts_of_closing before hsplit).1, parseParameters_ok]
      rfl

/-! ## Classes -/

theorem afterConstructor_ok (before rest : Text) :
    afterConstructor (before ++ rest) (Text.size before) = .ok (dropConstructor rest) := by
  obtain ⟨blanks, hrest⟩ : ∃ blanks, blanks ++ Text.trimStart rest = rest :=
    ⟨_, List.takeWhile_append_dropWhile⟩
  simp only [afterConstructor, cut_ok, bind, Except.bind, dropConstructor]
  rcases htrim : Text.trimStart rest with _ | ⟨c, inside⟩
  · rfl
  by_cases hc : c = '('
  · subst hc
    rw [htrim] at hrest
    have hcut : before ++ rest = before ++ blanks ++ ['('] ++ inside := by
      rw [← hrest]
      simp
    have hopen : Text.size (before ++ rest) - Text.size inside =
        Text.size (before ++ blanks ++ ['(']) := by
      rw [hcut, Text.size_append _ inside, Nat.add_sub_cancel]
    have hlead : Text.afterLead? ['('] ('(' :: inside) = some inside := rfl
    simp only [hlead, hopen]
    rw [hcut, closingParen_ok]
    cases hsplit : splitAtClosing? 1 inside with
    | none => rfl
    | some parts =>
        obtain ⟨list, after⟩ := parts
        simp only [Option.map_some, (cuts_of_closing _ hsplit).2]
        rfl
  · have hlead : Text.afterLead? ['('] (c :: inside) = none := if_neg hc
    simp only [hlead]
    split
    · next heq => exact absurd (List.cons.inj heq).1 hc
    · rfl

theorem parseSupertypes_ok (header : Text) :
    parseSupertypes header = .ok (Emend.parseSupertypes header) := by
  unfold parseSupertypes Emend.parseSupertypes
  cases Text.afterLead? [':'] header with
  | some list => rfl
  | none =>
      simp only [afterFirst_ok, bind, Except.bind]
      have hlist := slice_beforeFirst " implements ".toList
      cases Text.breakOn? "extends ".toList header <;>
        cases Text.breakOn? "implements ".toList header <;>
        simp only [Option.map_some, Option.map_none, Option.mapM_some, Option.mapM_none, hlist,
          pure, Except.pure] <;>
        rfl

theorem classOfHeader_ok (h : found.marks.Sound t) :
    classOfHeader t found = .ok (Emend.classOfHeader t found) := by
  obtain ⟨before, rest, rfl, hstop, -, hdrop⟩ := cut_behind h
  rw [← hstop] at hdrop
  simp only [classOfHeader, Emend.classOfHeader, ← hstop, hdrop, afterConstructor_ok,
    parseSupertypes_ok, bind, Except.bind]
  rfl

theorem locateFunction_ok (t : Text) : locateFunction t = .ok (Emend.locateFunction t) := by
  have hkeyword := fun n => findSome_ok (t := t) n fun _ h => functionOfKeyword_ok h
  have htype := findSome_ok (t := t) typedShape fun _ h => functionOfType_ok h
  simp only [locateFunction, hkeyword, htype, bind, Except.bind]
  rfl

theorem locateClass_ok (t : Text) : locateClass t = .ok (Emend.locateClass t) := by
  unfold locateClass Emend.locateClass
  cases hfound : Pattern.find classShape t with
  | none => rfl
  | some found =>
      rw [Option.mapM_some, classOfHeader_ok (Pattern.find_sound hfound)]
      rfl

end Checked

/-! ## Ends of headers -/

variable {t : Text}

/-- A header that goes on to a closing parenthesis ends behind it. -/
theorem isBoundary_behind {found : Pattern.Found} (h : found.marks.Sound t) {inside after : Text}
    (hsplit : splitAtClosing? 1 (t.dropBytes found.span.stop) = some (inside, after)) :
    Text.isBoundary (found.span.stop + Text.size inside + 1) t = true := by
  obtain ⟨before, rest, rfl, hsize, -, hdrop⟩ := Checked.cut_behind h
  rw [hdrop] at hsplit
  have hheader : Text.size (before ++ inside ++ [')']) =
      found.span.stop + Text.size inside + 1 := by
    rw [Text.size_append, Text.size_append, hsize]
    rfl
  have hplace := Text.isBoundary_size (before ++ inside ++ [')']) after
  rw [hheader] at hplace
  rw [splitAtClosing?_eq_some hsplit]
  simpa using hplace

theorem earlier_eq_some {α : Type} {a b : Option (Located α)} {found : Located α}
    (h : earlier a b = some found) : a = some found ∨ b = some found := by
  cases a with
  | none => exact .inr h
  | some a =>
      cases b with
      | none => exact .inl h
      | some b =>
          rw [earlier] at h
          split at h
          · exact .inl h
          · exact .inr h

theorem locateFunction_end {found : Located FunctionSignature}
    (h : locateFunction t = some found) : Text.isBoundary found.headerEnd t = true := by
  have hkeyword : ∀ n, Pattern.findSome n (functionOfKeyword? t) t = some found →
      Text.isBoundary found.headerEnd t = true := by
    intro n hn
    obtain ⟨m, hm, hmade⟩ := Pattern.findSome_eq_some hn
    unfold functionOfKeyword? at hmade
    obtain ⟨⟨inside, after⟩, hsplit, heq⟩ := Option.bind_eq_some_iff.1 hmade
    cases heq
    exact isBoundary_behind hm hsplit
  rcases earlier_eq_some h with h | h
  · rcases earlier_eq_some h with h | h
    · exact hkeyword _ h
    · exact hkeyword _ h
  · obtain ⟨m, hm, hmade⟩ := Pattern.findSome_eq_some h
    unfold functionOfType? at hmade
    simp only [bind] at hmade
    split at hmade
    · cases hmade
    split at hmade
    · cases hmade
    · obtain ⟨⟨inside, after⟩, hsplit, heq⟩ := Option.bind_eq_some_iff.1 hmade
      cases heq
      exact isBoundary_behind hm hsplit

theorem locateClass_end {found : Located ClassSignature} (h : locateClass t = some found) :
    Text.isBoundary found.headerEnd t = true := by
  obtain ⟨m, hm, rfl⟩ := Option.map_eq_some_iff.1 h
  exact (Pattern.Found.fits (Pattern.find_sound hm)).stop

end Emend
