import Emend.Proofs.Match.Declarations
import Emend.Proofs.Signature.Ascii
import Emend.Proofs.Signature.Headers
import Emend.Proofs.Text.LineTexts
/-!
# Declarations with a body

A pattern of one line finds the declaration that it is the header of, where a body in braces comes
after it, and from there the match goes to the end of the declaration (`find_braced`).

*The header.*  With the brace and more text behind it, the header is located as it is on its own
(`exists_target`).  The lines that are looked at start with the header and the brace
(`exists_context`).

*The end.*  The end is looked for behind what has been located of the header, and what is left of
the header counts: if it has neither a semicolon nor an equals sign, the match ends with the brace
that closes the body.  Otherwise it ends with the first line (`declarationEnd?_append`), and this is
a different place if the body goes on after the line (`find_braced_ends`).  Since of a class only
its name and its type parameters are located, a default value in its constructor has this effect
(`find_braced_default`).
-/

namespace Emend

/-! ## Balanced texts -/

namespace Braces

/-- Texts whose braces are those of blocks. -/
inductive Balanced : Text → Prop where
  /-- The empty text. -/
  | nil : Balanced []
  /-- A character that is no brace, and more text. -/
  | char {c : Char} {t : Text} (hopening : c ≠ '{') (hclosing : c ≠ '}') (h : Balanced t) :
      Balanced (c :: t)
  /-- A block, and more text. -/
  | block {inside t : Text} (hinside : Balanced inside) (h : Balanced t) :
      Balanced ('{' :: inside ++ '}' :: t)

theorem balanced_of_not_mem {t : Text} (hopening : '{' ∉ t) (hclosing : '}' ∉ t) : Balanced t := by
  induction t with
  | nil => exact .nil
  | cons c t ih =>
      rw [List.mem_cons, not_or] at hopening hclosing
      exact .char (Ne.symm hopening.1) (Ne.symm hclosing.1) (ih hopening.2 hclosing.2)

/-- A balanced text does not close the block that it is in. -/
theorem closingFrom?_append {body : Text} (h : Balanced body) (depth offset : Nat) (rest : Text) :
    closingFrom? (depth + 1) offset (body ++ rest) =
      closingFrom? (depth + 1) (offset + Text.size body) rest := by
  induction h generalizing depth offset rest with
  | nil => rfl
  | @char c t hopening hclosing _ ih =>
      rw [List.cons_append, closingFrom?, if_neg hopening, if_neg hclosing, ih, Text.size,
        Nat.add_assoc]
  | @block inside t _ _ ihInside ih =>
      rw [List.cons_append, List.cons_append, closingFrom?, if_pos rfl, List.append_assoc, ihInside,
        List.cons_append, closingFrom?, if_neg (by decide), if_pos rfl,
        if_neg (Nat.succ_ne_zero _), if_neg (by omega), Nat.add_sub_cancel, ih]
      congr 1
      rw [Text.size, Text.size_append, Text.size]
      omega

theorem closingFrom?_block {body : Text} (h : Balanced body) (offset : Nat) (rest : Text) :
    closingFrom? 0 offset ('{' :: (body ++ '}' :: rest)) = some (offset + 1 + Text.size body) := by
  rw [closingFrom?, if_pos rfl, closingFrom?_append h, closingFrom?, if_neg (by decide),
    if_pos rfl, if_neg (Nat.succ_ne_zero _), if_pos rfl]
  rfl

end Braces

namespace Declaration

open Braces (Balanced)

/-! ## Ends -/

theorem lineEnd_append {line : Text} (hline : '\n' ∉ line) (head rest : Text) :
    lineEnd head.getLast? (Text.size head) (line ++ '\n' :: rest) =
      Text.size (Text.dropReturn (head ++ line)) := by
  induction line generalizing head with
  | nil =>
      rw [List.nil_append, lineEnd, if_pos rfl, List.append_nil]
      split
      · next hlast =>
        obtain ⟨front, rfl⟩ := List.getLast?_eq_some_iff.1 hlast
        rw [Text.dropReturn_append, Text.size_append]
        rfl
      · next hlast => rw [Text.dropReturn_of_getLast?_ne hlast]
  | cons c line ih =>
      rw [List.mem_cons, not_or] at hline
      have hrest := ih hline.2 (head ++ [c])
      rw [List.getLast?_concat, Text.size_concat] at hrest
      rw [List.cons_append, lineEnd, if_neg (Ne.symm hline.1), hrest, List.append_assoc]
      rfl

/-- Whether a text has a character that ends a declaration with its line. -/
def endsLine (t : Text) : Bool := t.any fun c => c == ';' || c == '='

/-- From the rest of a header a declaration goes on to the body, or ends with its line. -/
theorem declarationEnd?_append {u : Text} (hline : '\n' ∉ u) (hbrace : '{' ∉ u)
    (before : Option Char) (offset : Nat) (rest : Text) :
    declarationEnd? before offset (u ++ '{' :: rest) =
      if endsLine u then some (lineEnd before offset (u ++ '{' :: rest))
      else (Braces.closingFrom? 0 (offset + Text.size u) ('{' :: rest)).map (· + 1) := by
  induction u generalizing before offset with
  | nil =>
      rw [List.nil_append, declarationEnd?, if_pos rfl]
      rfl
  | cons c u ih =>
      rw [List.mem_cons, not_or] at hline hbrace
      have hends : endsLine (c :: u) = ((c == ';' || c == '=') || endsLine u) := rfl
      rw [List.cons_append, declarationEnd?, if_neg (Ne.symm hbrace.1), hends]
      by_cases hc : c = ';' ∨ c = '='
      · rw [if_pos hc, if_pos (by simpa using .inl hc)]
      · have hnone : (c == ';' || c == '=') = false := by simpa using hc
        rw [if_neg hc, if_neg (Ne.symm hline.1), ih hline.2 hbrace.2, hnone, Bool.false_or, lineEnd,
          if_neg (Ne.symm hline.1), Text.size, Nat.add_assoc]

/-! ## The first line -/

/-- The first line of a text. -/
def firstLine (t : Text) : Text := Text.dropReturn (Text.before (· == '\n') t)

theorem before_append {front : Text} (hline : '\n' ∉ front) (t : Text) :
    Text.before (· == '\n') (front ++ t) = front ++ Text.before (· == '\n') t := by
  refine List.takeWhile_append_of_pos fun c hc => ?_
  have hne : c ≠ '\n' := fun heq => hline (heq ▸ hc)
  simpa using hne

theorem exists_feed (t rest : Text) : '\n' ∉ Text.before (· == '\n') t ∧
    ∃ more, t ++ '\n' :: rest = Text.before (· == '\n') t ++ '\n' :: more := by
  induction t with
  | nil => exact ⟨List.not_mem_nil, rest, rfl⟩
  | cons c t ih =>
      obtain ⟨hline, more, ih⟩ := ih
      by_cases hc : c = '\n'
      · subst hc
        exact ⟨List.not_mem_nil, t ++ '\n' :: rest, rfl⟩
      · have hfront : '\n' ∉ [c] := by simpa using Ne.symm hc
        have hcons := before_append hfront t
        rw [List.singleton_append] at hcons
        rw [hcons]
        refine ⟨?_, more, by simp [ih]⟩
        simpa using ⟨Ne.symm hc, hline⟩

/-- A line is not cut before the end of a text that has no carriage return there. -/
theorem size_le_dropReturn {front : Text} (h : front.getLast? ≠ some '\r') (tail : Text) :
    Text.size front ≤ Text.size (Text.dropReturn (front ++ tail)) := by
  rcases List.eq_nil_or_concat tail with rfl | ⟨tail, d, rfl⟩
  · rw [List.append_nil, Text.dropReturn_of_getLast?_ne h]
  · rw [List.concat_eq_append]
    by_cases hd : d = '\r'
    · rw [hd, ← List.append_assoc, Text.dropReturn_append, Text.size_append]
      exact Nat.le_add_right _ _
    · rw [← List.append_assoc, Text.dropReturn_of_getLast?_ne (by rwa [List.getLast?_concat, ne_eq,
        Option.some.injEq]), List.append_assoc, Text.size_append]
      exact Nat.le_add_right _ _

/-- The lines of a text that starts with a part of one line.  Whatever number of them is taken has
this part. -/
theorem exists_context {front : Text} (hline : '\n' ∉ front) (hne : front ≠ [])
    (hreturn : front.getLast? ≠ some '\r') (rest : Text) :
    ∃ line later, Text.lineSpans (front ++ rest) = line :: later ∧ line.start = 0 ∧
      0 < line.length ∧ ∀ n, ∃ u,
        (front ++ rest).slice 0 ((later.take n).getLastD line).stop = front ++ u := by
  obtain ⟨tail, more, hlines⟩ := Text.lines_append_of_not_mem hline rest
  have hfirst := size_le_dropReturn hreturn tail
  have hpos : Text.size front ≠ 0 := mt Text.eq_nil_of_size hne
  have hrows := Text.lineSpans_rows (front ++ rest)
  have hlater := (Text.spansFrom_rows more (front ++ tail ++ ['\n'])
    (by rw [List.getLast?_concat]; decide)).2
  have hsize : Text.size (front ++ tail ++ ['\n']) = Text.size (front ++ tail) + 1 := by
    rw [Text.size_append]
    rfl
  rw [hsize] at hlater
  rw [Text.lineSpans, hlines, Text.spansFrom, Nat.zero_add, Nat.zero_add] at hrows ⊢
  refine ⟨_, _, rfl, rfl, by simp only [Span.length]; omega, fun n => ?_⟩
  -- Each of the lines ends behind the first part.
  have hstop : ∀ s ∈ (⟨0, Text.size (Text.dropReturn (front ++ tail))⟩ : Span) ::
      Text.spansFrom (Text.size (front ++ tail) + 1) more, Text.size front ≤ s.stop := by
    refine List.forall_mem_cons.2 ⟨hfirst, fun s hs => ?_⟩
    have hstart := (hlater s hs).1
    have hordered := (hrows.fits s (List.mem_cons_of_mem _ hs)).ordered
    rw [Text.size_append] at hstart
    omega
  generalize Text.spansFrom (Text.size (front ++ tail) + 1) more = later at hrows hstop ⊢
  generalize (⟨0, Text.size (Text.dropReturn (front ++ tail))⟩ : Span) = line at hrows hstop ⊢
  have hlast : (later.take n).getLastD line ∈ line :: later :=
    List.cons_subset_cons line (List.take_subset n later) List.getLastD_mem_cons
  obtain ⟨u, v, hcut, husize⟩ := Text.isBoundary_iff.1 (hrows.fits _ hlast).stop
  obtain ⟨w, rfl, -⟩ := Text.append_eq_of_size_le hcut (by rw [husize]; exact hstop _ hlast)
  refine ⟨w, ?_⟩
  rw [hcut, ← husize]
  have htext := Span.text_append [] (front ++ w) v
  rwa [Span.text, Text.size, Nat.zero_add] at htext

/-! ## Leading declarations -/

/-- The end of the header of a declaration that is located where the text starts. -/
def leadEnd? {α : Type} (x : Option (Located α)) : Option Nat :=
  x.bind fun x => if x.start = 0 then some x.headerEnd else none

theorem leadEnd?_eq_some {α : Type} {x : Option (Located α)} {n : Nat} :
    leadEnd? x = some n ↔ ∃ found, x = some found ∧ found.start = 0 ∧ found.headerEnd = n := by
  rw [leadEnd?, Option.bind_eq_some_iff]
  refine exists_congr fun found => and_congr_right fun _ => ?_
  split <;> simp_all

/-- The end of the header of the declaration that leads a text: of a function, or of a class if no
function leads it. -/
def headerEnd? (t : Text) : Option Nat :=
  (leadEnd? (locateFunction t)).or (leadEnd? (locateClass t))

theorem headerEnd?_ascii {t : Text} (h : ∀ c ∈ t, c.toNat < 0x80) : headerEnd? t =
    (leadEnd? (Alphabet.ascii.locateFunction t)).or (leadEnd? (Alphabet.ascii.locateClass t)) := by
  rw [headerEnd?, locateFunction_ascii h, locateClass_ascii h]

variable {header : Text} {n : Nat}

/-- What the pattern names first is the declaration that leads it, and with a body behind it this
is located in the same way. -/
theorem exists_target (hopen : ¬ LeavesOpen header)
    (hclosed : ∀ f, locateFunction header = some f → f.start = 0 → ClosesParentheses header)
    (h : headerEnd? header = some n) : ∃ target others, Target.ofPattern header = target :: others ∧
      ∀ checks rest length, 0 < length →
        target.headerEnd? checks (header ++ ' ' :: '{' :: rest) length = some n := by
  cases hf : leadEnd? (locateFunction header) with
  | some n' =>
      obtain rfl : n' = n := by simpa [headerEnd?, hf] using h
      obtain ⟨f, hlocated, hzero, hend⟩ := leadEnd?_eq_some.1 hf
      have htarget : ∃ others, Target.ofPattern header = .function f.signature :: others := by
        unfold Target.ofPattern
        rw [hlocated]
        cases locateClass header with
        | none => exact ⟨_, rfl⟩
        | some c => exact ⟨_, if_pos (by omega)⟩
      obtain ⟨others, htarget⟩ := htarget
      refine ⟨_, others, htarget, fun checks rest length hlength => ?_⟩
      have hlong := (locateFunction_append rest hopen (hclosed f hlocated hzero) f hzero).2 hlocated
      have hagrees : f.signature.agrees checks f.signature = true :=
        (FunctionSignature.agrees_equivalence checks).refl f.signature
      simp [Target.headerEnd?, hlong, hzero, hlength, hagrees, hend]
  | none =>
      have hc : leadEnd? (locateClass header) = some n := by simpa [headerEnd?, hf] using h
      obtain ⟨c, hlocated, hzero, hend⟩ := leadEnd?_eq_some.1 hc
      have htarget : ∃ others, Target.ofPattern header = .class_ c.signature :: others := by
        unfold Target.ofPattern
        rw [hlocated]
        cases hfound : locateFunction header with
        | none => exact ⟨_, rfl⟩
        | some f =>
            have hlater : f.start ≠ 0 := fun h0 => by simp [leadEnd?, hfound, h0] at hf
            exact ⟨_, if_neg (by omega)⟩
      obtain ⟨others, htarget⟩ := htarget
      refine ⟨_, others, htarget, fun checks rest length hlength => ?_⟩
      obtain ⟨c', hlong, hzero', hend', hagrees⟩ :=
        locateClass_append rest hopen hlocated hzero checks
      simp [Target.headerEnd?, hlong, hzero', hlength, hagrees, hend', hend]

/-! ## Bodies -/

/-- A declaration whose body is in braces. -/
def braced (header body : Text) : Text := header ++ [' ', '{'] ++ body ++ ['}']

theorem headerEnd?_isBoundary (h : headerEnd? header = some n) :
    Text.isBoundary n header = true := by
  rcases Option.or_eq_some_iff.1 h with hf | ⟨-, hc⟩
  · obtain ⟨f, hlocated, -, rfl⟩ := leadEnd?_eq_some.1 hf
    exact locateFunction_end hlocated
  · obtain ⟨c, hlocated, -, rfl⟩ := leadEnd?_eq_some.1 hc
    exact locateClass_end hlocated

/-- The end of a declaration with a body in braces. -/
def bracedEnd (header body : Text) (n : Nat) : Nat :=
  if endsLine (header.dropBytes n) then Text.size (firstLine (braced header body))
  else Text.size (braced header body)

theorem endFrom?_braced (hline : '\n' ∉ header) (hbrace : '{' ∉ header) {body : Text}
    (hbody : Balanced body) (h : Text.isBoundary n header = true) (after : Text) :
    endFrom? n (braced header body ++ '\n' :: after) = some (bracedEnd header body n) := by
  obtain ⟨front, back, rfl, rfl⟩ := Text.isBoundary_iff.1 h
  simp only [List.mem_append, not_or] at hline hbrace
  have hcontent : braced (front ++ back) body ++ '\n' :: after =
      front ++ ((back ++ [' ']) ++ '{' :: (body ++ '}' :: '\n' :: after)) := by
    simp [braced]
  have hends : endsLine (back ++ [' ']) = endsLine back := by simp [endsLine]
  rw [hcontent, endFrom?, Text.splitAt?_size]
  simp only [bind, Option.bind_some]
  rw [declarationEnd?_append (by simp [hline.2]) (by simp [hbrace.2]), hends,
    Braces.closingFrom?_block hbody, bracedEnd, Text.dropBytes_size]
  split
  · obtain ⟨hfirst, more, hfeed⟩ := exists_feed (back ++ [' ', '{'] ++ body ++ ['}']) after
    have hbraced : braced (front ++ back) body =
        front ++ (back ++ [' ', '{'] ++ body ++ ['}']) := by simp [braced]
    have hrest : back ++ [' '] ++ '{' :: (body ++ '}' :: '\n' :: after) =
        back ++ [' ', '{'] ++ body ++ ['}'] ++ '\n' :: after := by simp
    rw [hrest, hfeed, lineEnd_append hfirst, firstLine, hbraced, before_append hline.1]
  · simp only [Option.map_some, braced, Text.size_append]
    rfl

/-- The first line of a declaration is all of it, or less. -/
theorem size_firstLine (hline : '\n' ∉ header) (body : Text) :
    Text.size (firstLine (braced header body)) = Text.size (braced header body) ↔
      '\n' ∉ body := by
  have hmem : '\n' ∈ braced header body ↔ '\n' ∈ body := by simp [braced, hline]
  rw [← hmem]
  constructor
  · intro hsize hfeed
    obtain ⟨front, back, hcut⟩ := List.append_of_mem hfeed
    obtain ⟨hnot, more, hfirst⟩ := exists_feed front back
    obtain ⟨tail, htail⟩ := Text.append_of_dropReturn (Text.before (· == '\n') front)
    have hline : firstLine (braced header body) =
        Text.dropReturn (Text.before (· == '\n') front) := by
      rw [firstLine, hcut, hfirst, before_append hnot]
      simp [Text.before]
    have hwhole := hcut.trans (hfirst.trans (congrArg (· ++ '\n' :: more) htail))
    have hlarge := congrArg Text.size hwhole
    rw [Text.size_append, Text.size_append, ← hline, Text.size] at hlarge
    have hpos := '\n'.utf8Size_pos
    omega
  · intro hnot
    have hwhole := before_append hnot []
    rw [List.append_nil] at hwhole
    rw [firstLine, hwhole, Text.before, List.takeWhile_nil, List.append_nil,
      Text.dropReturn_of_getLast?_ne (by rw [braced, List.getLast?_concat]; decide)]

/-- The declaration that leads a pattern of one line is found before a body in braces. -/
theorem find_braced (hline : '\n' ∉ header) (hbrace : '{' ∉ header) (hopen : ¬ LeavesOpen header)
    (hclosed : ∀ f, locateFunction header = some f → f.start = 0 → ClosesParentheses header)
    (hend : headerEnd? header = some n) {body : Text} (hbody : Balanced body) (after : Text)
    (options : MatchOptions) : find (braced header body ++ '\n' :: after) header options =
      some (Match.ofSpan (braced header body ++ '\n' :: after) ⟨0, bracedEnd header body n⟩) := by
  obtain ⟨target, others, htarget, hheader⟩ := exists_target hopen hclosed hend
  have hstop := endFrom?_braced hline hbrace hbody (headerEnd?_isBoundary hend) after
  have hcontent : braced header body ++ '\n' :: after =
      header ++ [' ', '{'] ++ (body ++ '}' :: '\n' :: after) := by simp [braced]
  rw [hcontent] at hstop ⊢
  generalize body ++ '}' :: '\n' :: after = rest at hstop ⊢
  have hfront : '\n' ∉ header ++ [' ', '{'] := by simp [hline]
  obtain ⟨line, later, hlines, hstart, hlength, hcontext⟩ :=
    exists_context hfront (by simp) (by simp) rest
  obtain ⟨u, hcontext⟩ := hcontext contextLines
  have hheader := hheader options.checks u line.length hlength
  have hlong : header ++ ' ' :: '{' :: u = header ++ [' ', '{'] ++ u := by simp
  rw [hlong] at hheader
  have hmatch : onLine? (header ++ [' ', '{'] ++ rest) target options.checks line later =
      some (Match.ofSpan (header ++ [' ', '{'] ++ rest) ⟨0, bracedEnd header body n⟩) := by
    simp only [onLine?, hstart, hcontext, hheader, Nat.zero_add, hstop, bind, Option.bind_some]
    rfl
  rw [find, htarget, List.findSome?_cons, hlines, findTarget, hmatch]

/-- The declaration that leads a pattern of one line, and closes what it opens, is found before a
body in braces.  The match ends with the brace that closes the body, unless the rest of the header
has a semicolon or an equals sign and the body goes over more than one line: then it ends with the
first line. -/
theorem find_braced_ends (hline : '\n' ∉ header) (hbrace : '{' ∉ header)
    (hopen : ¬ LeavesOpen header)
    (hclosed : ∀ f, locateFunction header = some f → f.start = 0 → ClosesParentheses header)
    (hend : headerEnd? header = some n) {body : Text} (hbody : Balanced body) (after : Text)
    (options : MatchOptions) :
    ∃ stop, find (braced header body ++ '\n' :: after) header options =
        some (Match.ofSpan (braced header body ++ '\n' :: after) ⟨0, stop⟩) ∧
      (stop = Text.size (braced header body) ∨ stop = Text.size (firstLine (braced header body))) ∧
      (stop = Text.size (braced header body) ↔
        (∀ c ∈ header.dropBytes n, c ≠ ';' ∧ c ≠ '=') ∨ '\n' ∉ body) := by
  refine ⟨_, find_braced hline hbrace hopen hclosed hend hbody after options, ?_, ?_⟩
  · unfold bracedEnd
    split
    · exact .inr rfl
    · exact .inl rfl
  · have hends : endsLine (header.dropBytes n) = false ↔
        ∀ c ∈ header.dropBytes n, c ≠ ';' ∧ c ≠ '=' := by simp [endsLine]
    rw [← hends, ← size_firstLine hline, bracedEnd]
    cases endsLine (header.dropBytes n) <;> simp

/-- A function whose result is named ends with its body. -/
theorem find_braced_ends_function :
    find (braced "fun f(x: Int): Int".toList "\n    return x\n".toList ++ '\n' :: "rest".toList)
        "fun f(x: Int): Int".toList {} =
      some ⟨⟨0, 35⟩, "fun f(x: Int): Int \x7b\n    return x\n\x7d".toList⟩ := by
  have hend : headerEnd? "fun f(x: Int): Int".toList = some 13 := by
    rw [headerEnd?_ascii (by simp)]
    decide +kernel
  have hbody : Balanced "\n    return x\n".toList :=
    Braces.balanced_of_not_mem (by decide) (by decide)
  obtain ⟨stop, hfind, -, hstop⟩ := find_braced_ends (by decide) (by decide) (by decide)
    (fun _ _ _ => by decide) hend hbody "rest".toList {}
  have hrest : ∀ c ∈ Text.dropBytes 13 "fun f(x: Int): Int".toList, c ≠ ';' ∧ c ≠ '=' := by
    have hcolon : Text.dropBytes 13 "fun f(x: Int): Int".toList = ": Int".toList := by decide
    rw [hcolon]
    simp
  rw [hfind, hstop.2 (.inl hrest)]
  rfl

/-- A class with a default value in its constructor ends with its first line. -/
theorem find_braced_default :
    (∀ c ∈ ['\n', '{', '}'], c ∉ "class P(val x: Int = 0)".toList) ∧
    headerEnd? "class P(val x: Int = 0)".toList = some 7 ∧ Balanced "\n    a()\n".toList ∧
    find (braced "class P(val x: Int = 0)".toList "\n    a()\n".toList ++ '\n' :: "rest".toList)
        "class P(val x: Int = 0)".toList {} =
      some ⟨⟨0, 25⟩, "class P(val x: Int = 0) \x7b".toList⟩ ∧
    Text.size (braced "class P(val x: Int = 0)".toList "\n    a()\n".toList) = 35 := by
  have hend : headerEnd? "class P(val x: Int = 0)".toList = some 7 := by
    rw [headerEnd?_ascii (by simp)]
    decide +kernel
  have hbody : Balanced "\n    a()\n".toList := Braces.balanced_of_not_mem (by decide) (by decide)
  refine ⟨by simp, hend, hbody, ?_, rfl⟩
  rw [find_braced (by decide) (by decide) (by decide) (fun _ _ _ => by decide) hend hbody]
  rfl

end Declaration

end Emend
