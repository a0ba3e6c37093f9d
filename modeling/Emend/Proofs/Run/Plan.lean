import Emend.Proofs.Match.Find
import Emend.Run.Execute
/-!
# Edits change what was found

An edit that puts a text in place of what a content has at a span applies to the content,
whether it carries the text of the span or its digest (`Edit.splice_replacing`).  The edits
that are planned are of this kind, because a match is exact: what an action plans is never
refused, and of the content only the place of the change is another afterwards
(`plan_changes_place`).  So it does not depend on the digest either (`plan_hash`).
-/

namespace Emend

variable {content pattern : Text} {options : MatchOptions} {m : Match} {change : Change}
  {hash : Text → UInt64}

/-! ## Edits -/

namespace Edit

variable (text : Text) (hash : Text → UInt64)

theorem parts_replacing (before part after : Text) :
    (replacing ⟨Text.size before, Text.size before + Text.size part⟩ part text hash).parts
      (before ++ part ++ after) hash = .ok (before, part, after) := by
  have hrange : ¬ (Text.size before + Text.size part < Text.size before ∨
      Text.size (before ++ part ++ after) < Text.size before + Text.size part) := by
    simp only [Text.size_append]
    omega
  have hlength : Span.length ⟨Text.size before, Text.size before + Text.size part⟩ =
      Text.size part := Nat.add_sub_cancel_left _ _
  simp only [parts, replacing, if_neg hrange, Text.splitAt?_append, hlength, Text.splitAt?_size,
    Expectation.meets_ofText, if_true]

theorem splice_at (before part after : Text) :
    (replacing ⟨Text.size before, Text.size before + Text.size part⟩ part text hash).splice
      (before ++ part ++ after) hash = .ok (before ++ text ++ after) := by
  rw [splice, parts_replacing]
  rfl

/-- An edit that expects what a content has at its span puts its text there. -/
theorem splice_replacing {s : Span} (h : s.Fits content) :
    ∃ before after, content = before ++ s.text content ++ after ∧
      Text.size before = s.start ∧ Text.size before + Text.size (s.text content) = s.stop ∧
      (replacing s (s.text content) text hash).splice content hash =
        .ok (before ++ text ++ after) := by
  obtain ⟨before, part, after, rfl, rfl⟩ := Span.fits_iff.1 h
  rw [Span.text_append]
  exact ⟨before, after, rfl, rfl, rfl, splice_at text hash before part after⟩

/-- It does so with each digest. -/
theorem splice_hash {s : Span} (h : s.Fits content) (other : Text → UInt64) :
    (replacing s (s.text content) text hash).splice content hash =
      (replacing s (s.text content) text other).splice content other := by
  obtain ⟨before, part, after, rfl, rfl⟩ := Span.fits_iff.1 h
  rw [Span.text_append, splice_at, splice_at]

end Edit

/-! ## Changes -/

namespace Change

/-- The place in the content of a change at a match. -/
def place (m : Match) : Change → Span
  | replaced _ | deleted => m.span
  | before _ => ⟨m.span.start, m.span.start⟩
  | after _ => ⟨m.span.stop, m.span.stop⟩

/-- The text that a change at a match puts at its place. -/
def text (content : Text) (m : Match) (change : Change) : Text :=
  let ending := LineEnding.detect content
  match change with
  | replaced t => Plan.reindented content m.span.start t ending
  | before t => ending.prepare t ++ ending.terminator
  | after t => ending.terminator ++ ending.prepare t
  | deleted => []

theorem place_fits (h : m.Exact content) : (change.place m).Fits content := by
  have hfit := h.fits
  cases change with
  | replaced t => exact hfit
  | before t => exact ⟨Nat.le_refl _, hfit.start, hfit.start⟩
  | after t => exact ⟨Nat.le_refl _, hfit.stop, hfit.stop⟩
  | deleted => exact hfit

/-- The edit of a change expects what the content has at the place of the change. -/
theorem edit_eq (h : m.Exact content) :
    Plan.edit content m (LineEnding.detect content) change hash =
      .replacing (change.place m) ((change.place m).text content) (change.text content m) hash := by
  have hmatch : m.span.text content = m.text := Text.slice_eq h
  have hnone : ∀ n, Text.isBoundary n content = true → Span.text ⟨n, n⟩ content = [] := by
    intro n hn
    obtain ⟨before, after, rfl, rfl⟩ := Text.isBoundary_iff.1 hn
    exact Text.slice_eq (Text.slice?_iff.2 ⟨before, after, by simp, rfl, rfl⟩)
  cases change with
  | replaced t => rw [place, hmatch]; rfl
  | before t => rw [place, hnone _ h.fits.start]; rfl
  | after t => rw [place, hnone _ h.fits.stop]; rfl
  | deleted => rw [place, hmatch]; rfl

end Change

/-! ## Plans -/

theorem exact_of_findMatch (h : findMatch content pattern options = some m) : m.Exact content :=
  (Checked.findMatch_agrees content pattern options).exact m h

theorem plan_of_none (h : findMatch content pattern options = none) :
    plan content pattern options change hash =
      .ok (.notFound (Plan.notFound options.mode change)) := by
  rw [plan, h]

variable (change hash)

/-- A change at a match puts its text at its place, and keeps what comes before and after. -/
theorem plan_of_match (h : findMatch content pattern options = some m) :
    ∃ before after, content = before ++ (change.place m).text content ++ after ∧
      Text.size before = (change.place m).start ∧
      Text.size before + Text.size ((change.place m).text content) = (change.place m).stop ∧
      plan content pattern options change hash =
        .ok (.edited (before ++ change.text content m ++ after)
          (Plan.summary content m options.mode change)) := by
  have hexact := exact_of_findMatch h
  obtain ⟨before, after, hcontent, hstart, hstop, hsplice⟩ :=
    Edit.splice_replacing (change.text content m) hash (Change.place_fits hexact)
  refine ⟨before, after, hcontent, hstart, hstop, ?_⟩
  simp only [plan, h, Change.edit_eq hexact, hsplice, Except.map]

theorem plan_ok (content pattern : Text) (options : MatchOptions) :
    ∃ planned, plan content pattern options change hash = .ok planned := by
  cases h : findMatch content pattern options with
  | none => exact ⟨_, plan_of_none h⟩
  | some m =>
      obtain ⟨_, _, -, -, -, hplan⟩ := plan_of_match change hash h
      exact ⟨_, hplan⟩

/-- What is planned is the same with each digest. -/
theorem plan_hash (other : Text → UInt64) :
    plan content pattern options change hash = plan content pattern options change other := by
  cases h : findMatch content pattern options with
  | none => rw [plan_of_none h, plan_of_none h]
  | some m =>
      have hexact := exact_of_findMatch h
      have hsplice := Edit.splice_hash (change.text content m) hash (change.place_fits hexact) other
      simp only [plan, h, Change.edit_eq hexact, hsplice]

theorem plan_notFound_iff : (∃ message, plan content pattern options change hash =
    .ok (.notFound message)) ↔ findMatch content pattern options = none := by
  constructor
  · rintro ⟨message, hplan⟩
    cases h : findMatch content pattern options with
    | none => rfl
    | some m =>
        obtain ⟨_, _, -, -, -, hedited⟩ := plan_of_match change hash h
        rw [hedited] at hplan
        cases hplan
  · exact fun h => ⟨_, plan_of_none h⟩

/-! ## The outcome -/

/-- No edit of a file ends with the fault of an edit. -/
theorem Session.editFile_ne_fault (s : Session) (path : Path) (pattern : Text)
    (options : MatchOptions) (change : Change) (e : EditError) :
    (s.editFile path pattern options change).2 ≠
      { status := .failed, message := "Edit verification failed: " ++ e.message } := by
  unfold editFile
  cases s.file? path with
  | none => simp
  | some bytes =>
  simp only
  cases Utf8.decode bytes with
  | error fault => simp [String.ext_iff]
  | ok content =>
  simp only
  obtain ⟨planned, hplan⟩ := plan_ok change s.hash content pattern options
  rw [hplan]
  cases planned with
  | notFound message => simp
  | edited after summary =>
  simp only
  split
  · simp
  · rw [save]
    generalize s.write path (Utf8.encode after) = written
    obtain ⟨s', result⟩ := written
    cases result with
    | ok done => simp [concluding]
    | error fault => simp [concluding, String.ext_iff]

/-- A change is always planned, and does not find its place only if there is no match.  What is
planned puts the text of the change at its place, and keeps the content before and after. -/
theorem plan_changes_place (content pattern : Text) (options : MatchOptions) (change : Change)
    (hash : Text → UInt64) :
    (∀ e, plan content pattern options change hash ≠ .error e) ∧
      (∀ (s : Session) path e, (s.editFile path pattern options change).2 ≠
        { status := .failed, message := "Edit verification failed: " ++ EditError.message e }) ∧
      ((∃ message, plan content pattern options change hash = .ok (.notFound message)) ↔
        findMatch content pattern options = none) ∧
      ∀ m, findMatch content pattern options = some m →
        ∃ before part after, content = before ++ part ++ after ∧
          Text.size before = (change.place m).start ∧
          Text.size before + Text.size part = (change.place m).stop ∧
          plan content pattern options change hash =
            .ok (.edited (before ++ change.text content m ++ after)
              (Plan.summary content m options.mode change)) := by
  refine ⟨fun e he => ?_, fun s path e => s.editFile_ne_fault path pattern options change e,
    plan_notFound_iff change hash, fun m hm => ?_⟩
  · obtain ⟨planned, hplan⟩ := plan_ok change hash content pattern options
    rw [he] at hplan
    cases hplan
  · obtain ⟨before, after, hchange⟩ := plan_of_match change hash hm
    exact ⟨before, _, after, hchange⟩

end Emend
