import Emend.Proofs.Match.HeaderCuts
/-!
# Spans of declarations

A header ends at a place of the text in which it is found.  From there the declaration ends
with a brace or with a line.  The end of a line may lie one byte further left than the
search for it started, between a carriage return and its line feed
(`declarationEnd?_reaches`); since a line does not start after a carriage return, the
declaration still ends no earlier than it starts.

The end is searched byte by byte, and the text is cut only where a byte has been found that is
a character by itself (`Checked.declarationEnd_ok`).
-/

namespace Emend

/-! ## Braces -/

namespace Braces

/-- What is behind one more character of a text is behind the cut, too. -/
theorem behind_of_cons {head t : Text} {c : Char} {n stop : Nat}
    (h : Text.size (head ++ [c]) ≤ n ∧ Text.isBoundary stop (head ++ [c] ++ t) = true) :
    Text.size head ≤ n ∧ Text.isBoundary stop (head ++ c :: t) = true := by
  obtain ⟨hle, hplace⟩ := h
  rw [Text.size_append] at hle
  rw [List.append_assoc] at hplace
  exact ⟨by omega, hplace⟩

theorem closingFrom?_isBoundary {depth n : Nat} {head t : Text}
    (h : closingFrom? depth (Text.size head) t = some n) :
    Text.size head ≤ n ∧ Text.isBoundary (n + 1) (head ++ t) = true := by
  induction t generalizing depth head with
  | nil => cases h
  | cons c t ih =>
      have hsize := Text.size_concat head c
      have hnext : ∀ {depth}, closingFrom? depth (Text.size head + c.utf8Size) t = some n →
          Text.size head ≤ n ∧ Text.isBoundary (n + 1) (head ++ c :: t) = true := by
        intro depth hrest
        rw [← hsize] at hrest
        exact behind_of_cons (ih hrest)
      rw [closingFrom?] at h
      split at h
      · exact hnext h
      · split at h
        · next hc =>
          subst hc
          split at h
          · cases h
          · split at h
            · cases h
              have hplace := Text.isBoundary_size (head ++ ['}']) t
              rw [hsize, List.append_assoc] at hplace
              exact ⟨Nat.le_refl _, hplace⟩
            · exact hnext h
        · exact hnext h

theorem scopeEndFrom?_isBoundary {target depth n : Nat} {reached : Bool} {head t : Text}
    (h : scopeEndFrom? target reached depth (Text.size head) t = some n) :
    Text.size head ≤ n ∧ Text.isBoundary n (head ++ t) = true := by
  induction t generalizing reached depth head with
  | nil => cases h
  | cons c t ih =>
      have hsize := Text.size_concat head c
      have hnext : ∀ {reached depth},
          scopeEndFrom? target reached depth (Text.size head + c.utf8Size) t = some n →
            Text.size head ≤ n ∧ Text.isBoundary n (head ++ c :: t) = true := by
        intro reached depth hrest
        rw [← hsize] at hrest
        exact behind_of_cons (ih hrest)
      have hhere : Text.size head ≤ Text.size head + c.utf8Size ∧
          Text.isBoundary (Text.size head + c.utf8Size) (head ++ c :: t) = true := by
        have hplace := Text.isBoundary_size (head ++ [c]) t
        rw [hsize, List.append_assoc] at hplace
        exact ⟨Nat.le_add_right _ _, hplace⟩
      rw [scopeEndFrom?] at h
      split at h
      · exact hnext h
      · split at h
        · split at h
          · cases h
            exact hhere
          · split at h
            · cases h
            · split at h
              · cases h
                exact hhere
              · exact hnext h
        · exact hnext h

end Braces

/-! ## Ends of declarations -/

namespace Declaration

/-- An offset is a place that does not lie behind the cut of a text, except between a
carriage return and what follows it. -/
def Reaches (head t : Text) (n : Nat) : Prop :=
  Text.isBoundary n (head ++ t) = true ∧
    (Text.size head ≤ n ∨ (head.getLast? = some '\r' ∧ n + 1 = Text.size head))

theorem reaches_of_cons {head t : Text} {c : Char} {n : Nat} (h : Reaches (head ++ [c]) t n) :
    Reaches head (c :: t) n := by
  obtain ⟨hplace, hle⟩ := h
  have hpos := c.utf8Size_pos
  rw [List.append_assoc] at hplace
  rw [Text.size_concat] at hle
  exact ⟨hplace, .inl (by omega)⟩

theorem reaches_here (head t : Text) : Reaches head t (Text.size head) :=
  ⟨Text.isBoundary_size head t, .inl (Nat.le_refl _)⟩

/-- The end of a line is left of a carriage return that comes before it. -/
theorem reaches_return (head t : Text) :
    Reaches head t (if head.getLast? = some '\r' then Text.size head - 1 else Text.size head) := by
  split
  · next hlast =>
    obtain ⟨front, rfl⟩ := List.getLast?_eq_some_iff.1 hlast
    have hsize : Text.size (front ++ ['\r']) = Text.size front + 1 := by
      rw [Text.size_append]
      rfl
    rw [hsize, Nat.add_sub_cancel]
    refine ⟨?_, .inr ⟨hlast, hsize.symm⟩⟩
    rw [List.append_assoc]
    exact Text.isBoundary_size front _
  · exact reaches_here head t

theorem lineEnd_reaches (head t : Text) :
    Reaches head t (lineEnd head.getLast? (Text.size head) t) := by
  induction t generalizing head with
  | nil => exact reaches_return head []
  | cons c t ih =>
      rw [lineEnd]
      split
      · exact reaches_return head (c :: t)
      · have hrest := ih (head ++ [c])
        rw [List.getLast?_concat, Text.size_concat] at hrest
        exact reaches_of_cons hrest

/-- A body that is opened after some of the text ends behind it. -/
theorem body_reaches {head back : Text} (front : Text) {n : Nat}
    (h : (Braces.closingFrom? 0 (Text.size head + Text.size front) back).map (· + 1) = some n) :
    Reaches head (front ++ back) n := by
  obtain ⟨close, hclose, rfl⟩ := Option.map_eq_some_iff.1 h
  rw [← Text.size_append] at hclose
  obtain ⟨hle, hplace⟩ := Braces.closingFrom?_isBoundary hclose
  rw [List.append_assoc] at hplace
  rw [Text.size_append] at hle
  exact ⟨hplace, .inl (by omega)⟩

theorem declarationEnd?_reaches {head t : Text} {n : Nat}
    (h : declarationEnd? head.getLast? (Text.size head) t = some n) : Reaches head t n := by
  induction t generalizing head with
  | nil =>
      cases h
      exact reaches_here head []
  | cons c t ih =>
      have hline := lineEnd_reaches head (c :: t)
      rw [declarationEnd?] at h
      split at h
      · exact body_reaches [] h
      · split at h
        · cases h
          exact hline
        · split at h
          · dsimp only at h
            split at h
            · next rest hbrace =>
              rw [← List.takeWhile_append_dropWhile (p := isBlank) (l := c :: t), hbrace]
              exact body_reaches _ h
            · cases h
              exact hline
          · rw [← Text.size_singleton, ← Text.size_append,
              ← List.getLast?_concat (l := head) (a := c)] at h
            exact reaches_of_cons (ih h)

end Declaration

/-! ## The ends of declarations byte by byte -/

namespace Checked

theorem closingBrace_ok (before block : Text) :
    closingBrace (before ++ block) (Text.size before) =
      .ok (Braces.closingFrom? 0 (Text.size before) block) := by
  rw [closingBrace, cut_ok]
  rfl

/-- The end of a line is where its line feed is, or the carriage return before it. -/
theorem lineEnd_eq (head t : Text) :
    let line := head ++ Text.before (· == '\n') t
    Declaration.lineEnd head.getLast? (Text.size head) t =
      if line.getLast? = some '\r' then Text.size line - 1 else Text.size line := by
  induction t generalizing head with
  | nil => simp [Declaration.lineEnd, Text.before]
  | cons c t ih =>
      by_cases hc : c = '\n'
      · simp [Declaration.lineEnd, Text.before, hc]
      · have hrest := ih (head ++ [c])
        rw [List.getLast?_concat, Text.size_concat, List.append_assoc] at hrest
        have hline : Text.before (· == '\n') (c :: t) = [c] ++ Text.before (· == '\n') t := by
          simp [Text.before, hc]
        rw [Declaration.lineEnd, if_neg hc, hline]
        exact hrest

theorem lineEnd_ok (head t : Text) :
    lineEnd (head ++ t) (Text.size head) =
      .ok (Declaration.lineEnd head.getLast? (Text.size head) t) := by
  obtain ⟨rest, hrest⟩ : ∃ rest, Text.before (· == '\n') t ++ rest = t :=
    ⟨_, List.takeWhile_append_dropWhile⟩
  have heq := lineEnd_eq head t
  dsimp only at heq
  simp only [lineEnd, cut_ok, bind, Except.bind, heq]
  generalize Text.before (· == '\n') t = line at hrest ⊢
  subst hrest
  rw [← List.append_assoc, ← Text.size_append, Text.size_append _ rest]
  rw [if_pos (Nat.le_add_right _ _)]
  by_cases hnil : head ++ line = []
  · rw [hnil]
    rfl
  · have hlast := byteIs_before (c := '\r') (by decide) (head ++ line) rest hnil
    have hpos : 0 < Text.size (head ++ line) :=
      Nat.pos_of_ne_zero (mt Text.eq_nil_of_size hnil)
    simp only [hpos, decide_true, Bool.true_and, hlast]
    rfl

/-- Inside a character the search for the end of a declaration goes on to its end. -/
theorem declarationEnd_inside (head t : Text) {c : Char} {k : Nat} (hpos : 0 < k)
    (hk : k ≤ c.utf8Size) :
    declarationEnd (head ++ c :: t) (Text.size head + k) =
      declarationEnd (head ++ c :: t) (Text.size (head ++ [c])) := by
  refine pass_inside (t := t) ['{', ';', '=', '\n'] (by simp) (fun n hlt hnone => ?_) hk
    (.inl hpos)
  rw [declarationEnd, hnone '{' (by decide), hnone ';' (by decide), hnone '=' (by decide),
    hnone '\n' (by decide)]
  simp [hlt]

/-- Behind blanks that start with a line feed, a brace may open the body. -/
theorem body_ok (head t : Text) :
    (do
      let next := Text.size head + Text.size (t.takeWhile isBlank)
      if byteIs (head ++ t) next '{' then
        return (← closingBrace (head ++ t) next).map (· + 1)
      else some <$> lineEnd (head ++ t) (Text.size head)) =
    Except.ok (match t.dropWhile isBlank with
      | '{' :: rest =>
        (Braces.closingFrom? 0 (Text.size head + Text.size (t.takeWhile isBlank))
          ('{' :: rest)).map (· + 1)
      | _ => some (Declaration.lineEnd head.getLast? (Text.size head) t)) := by
  have hcut : head ++ t = head ++ t.takeWhile isBlank ++ t.dropWhile isBlank := by
    rw [List.append_assoc, List.takeWhile_append_dropWhile]
  have hbrace := byteIs_iff (c := '{') (by decide) (head ++ t.takeWhile isBlank)
    (t.dropWhile isBlank)
  rw [← hcut, Text.size_append] at hbrace
  dsimp only
  split
  · next hyes =>
    obtain ⟨rest, hrest⟩ := List.head?_eq_some_iff.1 (hbrace.1 hyes)
    rw [← Text.size_append, hcut, hrest, closingBrace_ok]
    rfl
  · next hno =>
    rw [lineEnd_ok]
    split
    · next hrest => exact absurd (hbrace.2 (by rw [hrest]; rfl)) hno
    · rfl

/-- The search for the end of a declaration finds it byte by byte. -/
theorem declarationEnd_ok (head t : Text) :
    declarationEnd (head ++ t) (Text.size head) =
      .ok (Declaration.declarationEnd? head.getLast? (Text.size head) t) := by
  induction t generalizing head with
  | nil =>
      rw [declarationEnd, List.append_nil, if_neg (Nat.lt_irrefl _)]
      rfl
  | cons c t ih =>
      have hlt := size_lt head t c.utf8Size_pos
      rw [Nat.add_zero] at hlt
      rw [declarationEnd, if_pos hlt, byteIs_cons (by decide), byteIs_cons (by decide),
        byteIs_cons (by decide), byteIs_cons (by decide), Declaration.declarationEnd?]
      simp only [Bool.or_eq_true, decide_eq_true_eq]
      split
      · rw [closingBrace_ok]
        rfl
      split
      · rw [lineEnd_ok]
        rfl
      split
      · rw [cut_ok]
        exact body_ok head (c :: t)
      · have hrest := ih (head ++ [c])
        rw [List.append_assoc, List.singleton_append, List.getLast?_concat] at hrest
        rw [declarationEnd_inside head t Nat.one_pos c.utf8Size_pos, hrest, Text.size_concat]

end Checked

/-! ## The strategy -/

namespace Checked

variable (content pattern : Text) (target : Declaration.Target) (checks : SignatureChecks)

theorem targets_ok : targets pattern = .ok (Declaration.Target.ofPattern pattern) := by
  simp only [targets, Declaration.Target.ofPattern, locateFunction_ok, locateClass_ok, bind,
    Except.bind]
  cases Emend.locateFunction pattern with
  | none => cases Emend.locateClass pattern <;> rfl
  | some f =>
      cases Emend.locateClass pattern with
      | none => rfl
      | some c =>
          simp only
          split <;> rfl

theorem headerEnd_ok (context : Text) (lineLength : Nat) :
    headerEnd target checks context lineLength =
      .ok (target.headerEnd? checks context lineLength) := by
  cases target with
  | function wanted => simp only [headerEnd, locateFunction_ok, bind, Except.bind]; rfl
  | class_ wanted => simp only [headerEnd, locateClass_ok, bind, Except.bind]; rfl

theorem headerEnd?_isBoundary {context : Text} {lineLength n : Nat}
    (h : target.headerEnd? checks context lineLength = some n) :
    Text.isBoundary n context = true := by
  cases target with
  | function wanted =>
      obtain ⟨found, hfound, heq⟩ := Option.bind_eq_some_iff.1 h
      split at heq
      · cases heq
        exact locateFunction_end hfound
      · cases heq
  | class_ wanted =>
      obtain ⟨found, hfound, heq⟩ := Option.bind_eq_some_iff.1 h
      split at heq
      · cases heq
        exact locateClass_end hfound
      · cases heq

/-- A declaration whose header ends in some text behind the start of a line ends no earlier
than this line starts. -/
theorem declaration_fits {before front rest : Text} {stop : Nat}
    (hstart : before.getLast? ≠ some '\r')
    (h : Declaration.Reaches (before ++ front) rest stop) :
    Span.Fits ⟨Text.size before, stop⟩ (before ++ front ++ rest) := by
  obtain ⟨hplace, hle⟩ := h
  rw [Text.size_append] at hle
  refine ⟨?_, ?_, hplace⟩
  · rcases hle with hle | ⟨hlast, hle⟩
    · simp only
      omega
    · by_cases hfront : front = []
      · subst hfront
        rw [List.append_nil] at hlast
        exact absurd hlast hstart
      · have hpos : Text.size front ≠ 0 := fun hzero => hfront (Text.eq_nil_of_size hzero)
        simp only
        omega
  · rw [List.append_assoc]
    exact Text.isBoundary_size before _

/-- The declaration on the first of some lines. -/
theorem onLine_agrees {line : Span} {later : List Span}
    (hrows : Text.Rows content (line :: later)) (hstart : Text.IsLineStart content line.start) :
    Agrees content (onLine content target checks line later)
      (Declaration.onLine? content target checks line later) := by
  have hcontext := (hrows.sublist ((List.take_sublist Declaration.contextLines later).cons_cons
    line)).to_last
  unfold onLine Declaration.onLine?
  dsimp only
  generalize (later.take Declaration.contextLines).getLastD line = last at hcontext ⊢
  rw [slice_ok hcontext]
  have hslice : content.slice line.start last.stop =
      Span.text ⟨line.start, last.stop⟩ content := rfl
  rw [hslice]
  obtain ⟨before, context, after, rfl, hspan⟩ := Span.fits_iff.1 hcontext
  injection hspan with hline hlast
  have htext : Span.text ⟨line.start, last.stop⟩ (before ++ context ++ after) = context :=
    Text.slice_eq (Text.slice?_iff.2 ⟨before, after, rfl, hline.symm, hlast.symm⟩)
  rw [htext]
  simp only [bind, Except.bind, headerEnd_ok]
  cases hheader : target.headerEnd? checks context line.length with
  | none => exact agrees_none _
  | some n =>
  obtain ⟨front, back, rfl, hfront⟩ :=
    Text.isBoundary_iff.1 (headerEnd?_isBoundary target checks hheader)
  have hcontent : before ++ (front ++ back) ++ after = before ++ front ++ (back ++ after) := by
    simp
  have hsize : line.start + n = Text.size (before ++ front) := by
    rw [Text.size_append, hline, hfront]
  rw [hcontent] at hstart ⊢
  have hbefore : before.getLast? ≠ some '\r' := by
    rw [hline, List.append_assoc] at hstart
    exact hstart.getLast?_ne
  simp only [Declaration.endFrom?, hsize, declarationEnd_ok, Text.splitAt?_size, bind,
    Option.bind_some]
  cases hend : Declaration.declarationEnd? (before ++ front).getLast?
      (Text.size (before ++ front)) (back ++ after) with
  | none => exact agrees_none _
  | some stop =>
      have hfit := declaration_fits hbefore (Declaration.declarationEnd?_reaches hend)
      rw [hline]
      exact agrees_mapM id (some ⟨Text.size before, stop⟩) fun s hs => by
        cases hs
        exact hfit

theorem findTarget_agrees (lines : List Span) (hrows : Text.Rows content lines)
    (hstart : ∀ line ∈ lines, Text.IsLineStart content line.start) :
    Agrees content (findTarget content target checks lines)
      (Declaration.findTarget content target checks lines) := by
  induction lines with
  | nil => exact agrees_none content
  | cons line later ih =>
      obtain ⟨hline, hlater⟩ := List.forall_mem_cons.1 hstart
      have hfirst := onLine_agrees content target checks hrows hline
      rw [findTarget, Declaration.findTarget, hfirst.eq]
      cases hfound : Declaration.onLine? content target checks line later with
      | none => exact ih hrows.tail hlater
      | some m =>
          refine ⟨rfl, fun found hm => ?_⟩
          cases hm
          exact hfirst.exact m hfound

theorem findDeclaration_agrees (options : MatchOptions) :
    Agrees content (findDeclaration content pattern options)
      (Declaration.find content pattern options) := by
  have htarget := fun target => findTarget_agrees content target options.checks _
    (Text.lineSpans_rows content) (Text.lineSpans_start content)
  refine ⟨?_, fun m hm => ?_⟩
  · simp only [findDeclaration, targets_ok, bind, Except.bind]
    exact findSomeM?_ok fun target _ => (htarget target).eq
  · obtain ⟨target, -, hfound⟩ := List.exists_of_findSome?_eq_some hm
    exact (htarget target).exact m hfound

end Checked

end Emend
