import Emend.Proofs.Run.Plan
/-!
# Edits that are refused, made and taken back

An edit is made if its part is in the content, starts and ends between characters and holds what
is expected.  Of several reasons to refuse it the first one is told, in this order
(`Edit.Refused`).

The content is cut at the offsets of an edit only after these have been checked.  The edit is made
once more here with cuts that must not fail (`Checked.splice`), and comes to the same.

The edit that puts back what has been replaced, where the new text is now, applies to the new
content, and what it makes is the old content (`Edit.takeBack`).
-/

namespace Emend

namespace Checked

/-- The content with an edit made, its offsets being checked before the content is cut. -/
def splice (content : Text) (e : Edit) (hash : Text → UInt64) :
    Except Span (Except EditError Text) := do
  let size := Text.size content
  if e.span.stop < e.span.start ∨ size < e.span.stop then
    return .error (.invalidRange e.span size)
  else if !Text.isBoundary e.span.start content then
    return .error (.insideCharacter e.span.start)
  else if !Text.isBoundary e.span.stop content then
    return .error (.insideCharacter e.span.stop)
  else
    let part ← slice content e.span
    if !e.expected.meets part hash then return .error (.mismatch e.span part)
    else
      let before ← slice content ⟨0, e.span.start⟩
      let after ← slice content ⟨e.span.stop, size⟩
      return .ok (before ++ e.text ++ after)

end Checked

namespace Edit

/-- The part of an edit is not reversed and does not reach past the end of the content. -/
def InRange (content : Text) (e : Edit) : Prop :=
  e.span.start ≤ e.span.stop ∧ e.span.stop ≤ Text.size content

/-- What is told of an edit that is refused. -/
inductive Refused (content : Text) (e : Edit) (hash : Text → UInt64) : EditError → Prop where
  /-- Before all else, that the part is not in the content. -/
  | range : ¬ e.InRange content → Refused content e hash (.invalidRange e.span (Text.size content))
  /-- Then, that it starts inside a character. -/
  | start : e.InRange content → Text.isBoundary e.span.start content = false →
      Refused content e hash (.insideCharacter e.span.start)
  /-- Then, that it ends inside a character. -/
  | stop : e.InRange content → Text.isBoundary e.span.start content = true →
      Text.isBoundary e.span.stop content = false →
      Refused content e hash (.insideCharacter e.span.stop)
  /-- And last, that it holds another text. -/
  | part : e.span.Fits content → e.expected.meets (e.span.text content) hash = false →
      Refused content e hash (.mismatch e.span (e.span.text content))

/-- The edit that puts a part back where an edit has put its text. -/
def takeBack (e : Edit) (part : Text) (hash : Text → UInt64) : Edit :=
  replacing ⟨e.span.start, e.span.start + Text.size e.text⟩ e.text part hash

variable {content : Text} {e : Edit} {hash : Text → UInt64}

/-! ## What an edit comes to -/

theorem inRange_of_fits (h : e.span.Fits content) : e.InRange content := ⟨h.ordered, h.stop_le⟩

/-- If there is no reason to refuse an edit, it is to be made. -/
theorem refused_or_fits (content : Text) (e : Edit) (hash : Text → UInt64) :
    (∃ error, e.Refused content hash error) ∨
      (e.span.Fits content ∧ e.expected.meets (e.span.text content) hash = true) := by
  by_cases hrange : e.InRange content
  · cases hstart : Text.isBoundary e.span.start content with
    | false => exact .inl ⟨_, .start hrange hstart⟩
    | true =>
        cases hstop : Text.isBoundary e.span.stop content with
        | false => exact .inl ⟨_, .stop hrange hstart hstop⟩
        | true =>
            have hfits : e.span.Fits content := ⟨hrange.1, hstart, hstop⟩
            cases hmeets : e.expected.meets (e.span.text content) hash with
            | false => exact .inl ⟨_, .part hfits hmeets⟩
            | true => exact .inr ⟨hfits, rfl⟩
  · exact .inl ⟨_, .range hrange⟩

theorem outOfRange_iff : ¬ e.InRange content ↔
    e.span.stop < e.span.start ∨ Text.size content < e.span.stop := by
  rw [InRange]
  omega

theorem splice_of_not_inRange (h : ¬ e.InRange content) :
    e.splice content hash = .error (.invalidRange e.span (Text.size content)) := by
  rw [splice, parts, if_pos (outOfRange_iff.1 h)]
  rfl

theorem splice_of_start (h : e.InRange content)
    (hstart : Text.isBoundary e.span.start content = false) :
    e.splice content hash = .error (.insideCharacter e.span.start) := by
  have hrange := mt outOfRange_iff.2 (not_not_intro h)
  have hcut : Text.splitAt? e.span.start content = none := by
    rwa [Text.isBoundary, Option.isSome_eq_false_iff, Option.isNone_iff_eq_none] at hstart
  rw [splice, parts, if_neg hrange, hcut]
  rfl

theorem splice_of_stop (h : e.InRange content)
    (hstart : Text.isBoundary e.span.start content = true)
    (hstop : Text.isBoundary e.span.stop content = false) :
    e.splice content hash = .error (.insideCharacter e.span.stop) := by
  have hrange := mt outOfRange_iff.2 (not_not_intro h)
  obtain ⟨before, rest, rfl, hbefore⟩ := Text.isBoundary_iff.1 hstart
  have hcut : Text.splitAt? e.span.length rest = none := by
    -- A cut of the rest would be one of the content.
    cases hrest : Text.splitAt? e.span.length rest with
    | none => rfl
    | some cut =>
        obtain ⟨rfl, hlength⟩ := Text.splitAt?_iff.1 (show _ = some (cut.1, cut.2) from hrest)
        have hplace := Text.isBoundary_size (before ++ cut.1) cut.2
        rw [Text.size_append, hbefore, hlength, Span.length, Nat.add_sub_cancel' h.1,
          List.append_assoc, hstop] at hplace
        cases hplace
  rw [splice, parts, if_neg hrange, ← hbefore, Text.splitAt?_size]
  simp only [hcut]
  rfl

/-- Where the part is in the content, it only matters what it holds. -/
theorem splice_of_fits (h : e.span.Fits content) (hash : Text → UInt64) : ∃ before after,
    content = before ++ e.span.text content ++ after ∧ Text.size before = e.span.start ∧
      Text.size (before ++ e.span.text content) = e.span.stop ∧
      e.splice content hash = if e.expected.meets (e.span.text content) hash then
        .ok (before ++ e.text ++ after) else .error (.mismatch e.span (e.span.text content)) := by
  have hrange := mt outOfRange_iff.2 (not_not_intro (inRange_of_fits h))
  obtain ⟨before, part, after, rfl, hspan⟩ := Span.fits_iff.1 h
  have htext : e.span.text (before ++ part ++ after) = part := by
    rw [hspan, Span.text_append]
  have hstart : e.span.start = Text.size before := by rw [hspan]
  have hlength : e.span.length = Text.size part := by
    rw [hspan]
    exact Nat.add_sub_cancel_left _ _
  refine ⟨before, after, by rw [htext], hstart.symm, ?_, ?_⟩
  · rw [htext, hspan, Text.size_append]
  · rw [splice, parts, if_neg hrange, htext, hlength, hstart, Text.splitAt?_append]
    simp only [Text.splitAt?_size]
    cases e.expected.meets part hash with
    | true => rfl
    | false => rfl

theorem splice_of_refused {error : EditError} (h : e.Refused content hash error) :
    e.splice content hash = .error error := by
  cases h with
  | range h => exact splice_of_not_inRange h
  | start h hstart => exact splice_of_start h hstart
  | stop h hstart hstop => exact splice_of_stop h hstart hstop
  | part h hmeets =>
      obtain ⟨before, after, -, -, -, hsplice⟩ := splice_of_fits h hash
      rw [hsplice, hmeets]
      rfl

/-- An edit that is not refused puts its text where its part has been. -/
theorem splice_of_meets (h : e.span.Fits content)
    (hmeets : e.expected.meets (e.span.text content) hash = true) : ∃ before after,
      content = before ++ e.span.text content ++ after ∧ Text.size before = e.span.start ∧
        Text.size (before ++ e.span.text content) = e.span.stop ∧
        e.splice content hash = .ok (before ++ e.text ++ after) := by
  obtain ⟨before, after, hcontent, hstart, hstop, hsplice⟩ := splice_of_fits h hash
  rw [hmeets] at hsplice
  exact ⟨before, after, hcontent, hstart, hstop, hsplice⟩

theorem splice_eq_error_iff {error : EditError} :
    e.splice content hash = .error error ↔ e.Refused content hash error := by
  refine ⟨fun h => ?_, splice_of_refused⟩
  rcases refused_or_fits content e hash with ⟨told, hrefused⟩ | ⟨hfits, hmeets⟩
  · rw [splice_of_refused hrefused] at h
    cases h
    exact hrefused
  · obtain ⟨before, after, -, -, -, hok⟩ := splice_of_meets hfits hmeets
    rw [hok] at h
    cases h

/-- An edit that is made is not refused. -/
theorem fits_of_splice {made : Text} (h : e.splice content hash = .ok made) :
    e.span.Fits content ∧ e.expected.meets (e.span.text content) hash = true := by
  rcases refused_or_fits content e hash with ⟨error, hrefused⟩ | hfits
  · rw [splice_of_refused hrefused] at h
    cases h
  · exact hfits

end Edit

/-! ## Cuts -/

namespace Checked

variable {content : Text} {e : Edit} {hash : Text → UInt64}

theorem slice_part (before part after : Text) :
    slice (before ++ part ++ after) ⟨Text.size before, Text.size (before ++ part)⟩ = .ok part := by
  have hslice := Text.slice?_iff.2 ⟨before, after, rfl, rfl, (Text.size_append before part).symm⟩
  rw [slice, hslice]

theorem splice_of_refused {error : EditError} (h : e.Refused content hash error) :
    splice content e hash = .ok (.error error) := by
  cases h with
  | range h =>
      rw [splice, if_pos (Edit.outOfRange_iff.1 h)]
      rfl
  | start h hstart =>
      rw [splice, if_neg (mt Edit.outOfRange_iff.2 (not_not_intro h)), hstart]
      rfl
  | stop h hstart hstop =>
      rw [splice, if_neg (mt Edit.outOfRange_iff.2 (not_not_intro h)), hstart, hstop]
      rfl
  | part h hmeets =>
      have hrange := Edit.inRange_of_fits h
      rw [splice, if_neg (mt Edit.outOfRange_iff.2 (not_not_intro hrange)), h.start, h.stop,
        slice_ok h]
      simp [hmeets, bind, Except.bind, pure, Except.pure]

/-- The checks leave cuts at places only. -/
theorem splice_eq (content : Text) (e : Edit) (hash : Text → UInt64) :
    splice content e hash = .ok (e.splice content hash) := by
  rcases Edit.refused_or_fits content e hash with ⟨error, hrefused⟩ | ⟨hfits, hmeets⟩
  · rw [splice_of_refused hrefused, Edit.splice_of_refused hrefused]
  · have hrange := Edit.inRange_of_fits hfits
    obtain ⟨before, after, hcontent, hstart, hstop, hok⟩ := Edit.splice_of_meets hfits hmeets
    have hlead : slice content ⟨0, e.span.start⟩ = .ok before := by
      have hslice := slice_part [] before (e.span.text content ++ after)
      rwa [List.nil_append, ← List.append_assoc, ← hcontent, hstart] at hslice
    have htail : slice content ⟨e.span.stop, Text.size content⟩ = .ok after := by
      have hslice := slice_part (before ++ e.span.text content) after []
      rwa [List.append_nil, ← hcontent, hstop] at hslice
    rw [hok, splice, if_neg (mt Edit.outOfRange_iff.2 (not_not_intro hrange)), hfits.start,
      hfits.stop, slice_ok hfits, hlead, htail]
    simp [hmeets, bind, Except.bind, pure, Except.pure]

end Checked

namespace Edit

variable {content : Text} {e : Edit} {hash : Text → UInt64}

/-! ## Edits that are taken back -/

theorem splice_takeBack {before : Text} (hbefore : Text.size before = e.span.start)
    (part after : Text) :
    (e.takeBack part hash).splice (before ++ e.text ++ after) hash =
      .ok (before ++ part ++ after) := by
  rw [takeBack, ← hbefore]
  exact splice_at part hash before e.text after

/-- An edit is made exactly if its part is in the content, between characters, and holds what is
expected; otherwise the first reason to refuse it is told.  The content is cut at places
only.  The text of the edit comes in place of the part, and taking the edit back gives the
content again. -/
theorem splice_guarded (content : Text) (e : Edit) (hash : Text → UInt64) :
    ((∃ made, e.splice content hash = .ok made) ↔
      e.span.start ≤ e.span.stop ∧ e.span.stop ≤ Text.size content ∧
        Text.isBoundary e.span.start content = true ∧ Text.isBoundary e.span.stop content = true ∧
        e.expected.meets (e.span.text content) hash = true) ∧
    (∀ error, e.splice content hash = .error error ↔ e.Refused content hash error) ∧
    Checked.splice content e hash = .ok (e.splice content hash) ∧
    ∀ made, e.splice content hash = .ok made →
      ∃ before part after, content = before ++ part ++ after ∧
        Text.size before = e.span.start ∧ Text.size (before ++ part) = e.span.stop ∧
        made = before ++ e.text ++ after ∧
        (e.takeBack part hash).splice made hash = .ok content := by
  refine ⟨⟨?_, ?_⟩, fun error => splice_eq_error_iff, Checked.splice_eq content e hash, ?_⟩
  · rintro ⟨made, h⟩
    obtain ⟨hfits, hmeets⟩ := fits_of_splice h
    exact ⟨hfits.ordered, hfits.stop_le, hfits.start, hfits.stop, hmeets⟩
  · rintro ⟨hordered, -, hstart, hstop, hmeets⟩
    obtain ⟨before, after, -, -, -, hok⟩ := splice_of_meets ⟨hordered, hstart, hstop⟩ hmeets
    exact ⟨_, hok⟩
  · intro made h
    obtain ⟨hfits, hmeets⟩ := fits_of_splice h
    obtain ⟨before, after, hcontent, hstart, hstop, hok⟩ := splice_of_meets hfits hmeets
    rw [hok] at h
    cases h
    refine ⟨before, _, after, hcontent, hstart, hstop, rfl, ?_⟩
    rw [splice_takeBack hstart, ← hcontent]

/-- A character of two bytes is replaced, and put back. -/
theorem splice_guarded_accent :
    (replacing ⟨1, 3⟩ ['é'] ['x', 'y']).splice ['a', 'é', 'b'] = .ok ['a', 'x', 'y', 'b'] ∧
      ∃ part, ((replacing ⟨1, 3⟩ ['é'] ['x', 'y']).takeBack part Text.digest).splice
        ['a', 'x', 'y', 'b'] = .ok ['a', 'é', 'b'] := by
  obtain ⟨hmade, -, -, hback⟩ :=
    splice_guarded ['a', 'é', 'b'] (replacing ⟨1, 3⟩ ['é'] ['x', 'y']) Text.digest
  obtain ⟨made, hok⟩ := hmade.2 ⟨by decide, by decide, by decide, by decide, by decide⟩
  obtain ⟨before, part, after, -, -, -, -, htaken⟩ := hback made hok
  have hmade : made = ['a', 'x', 'y', 'b'] := by
    cases hok
    rfl
  subst hmade
  exact ⟨hok, part, htaken⟩

end Edit

end Emend
