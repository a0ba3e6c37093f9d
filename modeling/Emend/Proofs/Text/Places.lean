import Emend.Text.Line
/-!
# Places in a text

An offset is a place in a text if the text can be cut there, and a span fits a text if
its ends are places which come in order.  Then, and only then, there is a text at the
span (`Span.fits_iff`), and it stays the same when more text is put around it
(`Span.Fits.shift`).
-/

namespace Emend

namespace Text

variable {t before after part : Text} {n start stop : Nat}

theorem eq_nil_of_size (h : size t = 0) : t = [] := by
  cases t with
  | nil => rfl
  | cons c t =>
      have hc := c.utf8Size_pos
      rw [size] at h
      omega

theorem size_singleton (c : Char) : size [c] = c.utf8Size := by
  rw [size, size, Nat.add_zero]

theorem size_concat (t : Text) (c : Char) : size (t ++ [c]) = size t + c.utf8Size := by
  rw [size_append, size_singleton]

/-! ## Cuts -/

theorem splitAt?_iff : splitAt? n t = some (before, after) ↔
    t = before ++ after ∧ size before = n := by
  constructor
  · intro h
    obtain ⟨rfl, hsize⟩ := splitAt?_eq_some h
    exact ⟨rfl, hsize⟩
  · rintro ⟨rfl, rfl⟩
    exact splitAt?_size before after

theorem splitAt?_append (before part after : Text) :
    splitAt? (size before) (before ++ part ++ after) = some (before, part ++ after) :=
  splitAt?_iff.2 ⟨List.append_assoc before part after, rfl⟩

theorem isBoundary_iff : isBoundary n t = true ↔
    ∃ before after, t = before ++ after ∧ size before = n := by
  rw [isBoundary, Option.isSome_iff_exists]
  constructor
  · rintro ⟨⟨before, after⟩, h⟩
    exact ⟨before, after, splitAt?_iff.1 h⟩
  · rintro ⟨before, after, h⟩
    exact ⟨(before, after), splitAt?_iff.2 h⟩

theorem isBoundary_size (before after : Text) : isBoundary (size before) (before ++ after) = true :=
  isBoundary_iff.2 ⟨before, after, rfl, rfl⟩

theorem isBoundary_zero (t : Text) : isBoundary 0 t = true := isBoundary_size [] t

theorem le_size_of_isBoundary (h : isBoundary n t = true) : n ≤ size t := by
  obtain ⟨before, after, rfl, rfl⟩ := isBoundary_iff.1 h
  rw [size_append]
  omega

/-- Of two ways to cut a text, the one with the shorter first part cuts the other one. -/
theorem append_eq_of_size_le {a b a' b' : Text} (h : a ++ b = a' ++ b')
    (hle : size a ≤ size a') : ∃ c, a' = a ++ c ∧ b = c ++ b' := by
  rcases List.append_eq_append_iff.1 h with ⟨c, ha, hb⟩ | ⟨c, ha, hb⟩
  · exact ⟨c, ha, hb⟩
  · have hc : size c = 0 := by
      rw [ha, size_append] at hle
      omega
    rw [eq_nil_of_size hc] at ha hb
    exact ⟨[], by simp [ha], by simp [hb]⟩

/-! ## Slices -/

theorem slice?_iff : slice? start stop t = some part ↔
    ∃ before after, t = before ++ part ++ after ∧ size before = start ∧
      size before + size part = stop := by
  constructor
  · intro h
    unfold slice? at h
    cases hcut : splitAt? start t with
    | none => simp [hcut] at h
    | some cut =>
        obtain ⟨before, rest⟩ := cut
        obtain ⟨rfl, rfl⟩ := splitAt?_iff.1 hcut
        by_cases hle : size before ≤ stop
        · cases hpart : splitAt? (stop - size before) rest with
          | none => simp [hcut, hle, hpart] at h
          | some cut =>
              obtain ⟨found, after⟩ := cut
              obtain ⟨rfl, hsize⟩ := splitAt?_iff.1 hpart
              simp only [hcut, hle, hpart, Option.bind_eq_bind, Option.bind_some, if_true,
                Option.pure_def, Option.some.injEq] at h
              subst h
              exact ⟨before, after, by simp, rfl, by omega⟩
        · simp [hcut, hle] at h
  · rintro ⟨before, after, rfl, rfl, rfl⟩
    have hsecond : splitAt? (size before + size part - size before) (part ++ after) =
        some (part, after) := splitAt?_iff.2 ⟨rfl, by omega⟩
    unfold slice?
    rw [splitAt?_append]
    simp only [Option.bind_eq_bind, Option.bind_some, Nat.le_add_right, if_true, hsecond,
      Option.pure_def]

theorem slice_eq (h : slice? start stop t = some part) : slice start stop t = part := by
  rw [slice, h]
  rfl

theorem dropBytes_size (before after : Text) :
    dropBytes (size before) (before ++ after) = after := by
  rw [dropBytes, splitAt?_size]
  rfl

end Text

namespace Span

variable {s : Span} {t : Text}

/-- The ends of a span are places in a text and come in order. -/
structure Fits (s : Span) (t : Text) : Prop where
  /-- The ends come in order. -/
  ordered : s.start ≤ s.stop
  /-- The first one is a place. -/
  start : Text.isBoundary s.start t = true
  /-- The last one is a place. -/
  stop : Text.isBoundary s.stop t = true

/-- The text at the span of a part is the part. -/
theorem text_append (before part after : Text) :
    text ⟨Text.size before, Text.size before + Text.size part⟩ (before ++ part ++ after) = part :=
  Text.slice_eq (Text.slice?_iff.2 ⟨before, after, rfl, rfl, rfl⟩)

/-- A span fits a text if the text has a part at the span. -/
theorem fits_iff : s.Fits t ↔ ∃ before part after, t = before ++ part ++ after ∧
    s = ⟨Text.size before, Text.size before + Text.size part⟩ := by
  constructor
  · rintro ⟨hle, hstart, hstop⟩
    obtain ⟨before, rest, rfl, hbefore⟩ := Text.isBoundary_iff.1 hstart
    obtain ⟨longer, after, heq, hlonger⟩ := Text.isBoundary_iff.1 hstop
    rw [← hbefore, ← hlonger] at hle
    obtain ⟨part, rfl, rfl⟩ := Text.append_eq_of_size_le heq hle
    rw [Text.size_append] at hlonger
    refine ⟨before, part, after, by simp, ?_⟩
    rw [hlonger, hbefore]
  · rintro ⟨before, part, after, rfl, rfl⟩
    refine ⟨Nat.le_add_right _ _, ?_, ?_⟩
    · rw [List.append_assoc]
      exact Text.isBoundary_size before _
    · simp only [← Text.size_append]
      exact Text.isBoundary_size (before ++ part) after

/-- The text at a span that fits. -/
theorem Fits.slice? (h : s.Fits t) : Text.slice? s.start s.stop t = some (s.text t) := by
  obtain ⟨before, part, after, ht, rfl⟩ := fits_iff.1 h
  have hslice := Text.slice?_iff.2 ⟨before, after, ht, rfl, rfl⟩
  rw [hslice, text, Text.slice_eq hslice]

theorem fits_of_slice? {part : Text} (h : Text.slice? s.start s.stop t = some part) :
    s.Fits t := by
  obtain ⟨before, after, ht, hstart, hstop⟩ := Text.slice?_iff.1 h
  refine fits_iff.2 ⟨before, part, after, ht, ?_⟩
  rw [hstop, hstart]

theorem Fits.stop_le (h : s.Fits t) : s.stop ≤ Text.size t := Text.le_size_of_isBoundary h.stop

theorem fits_zero (t : Text) : Fits ⟨0, 0⟩ t :=
  ⟨Nat.le_refl 0, Text.isBoundary_zero t, Text.isBoundary_zero t⟩

theorem fits_whole (t : Text) : Fits ⟨0, Text.size t⟩ t :=
  ⟨Nat.zero_le _, Text.isBoundary_zero t, Text.isBoundary_iff.2 ⟨t, [], by simp, rfl⟩⟩

/-- A span of a part is a span of the text, with the same text at it. -/
theorem Fits.shift (before : Text) {part : Text} (h : s.Fits part) (after : Text) :
    (s.shift (Text.size before)).Fits (before ++ part ++ after) ∧
      (s.shift (Text.size before)).text (before ++ part ++ after) = s.text part := by
  obtain ⟨front, found, back, rfl, rfl⟩ := fits_iff.1 h
  have houter : Text.slice? (Text.size front + Text.size before)
      (Text.size front + Text.size found + Text.size before)
      (before ++ (front ++ found ++ back) ++ after) = some found := by
    refine Text.slice?_iff.2 ⟨before ++ front, back ++ after, by simp, ?_, ?_⟩
    · rw [Text.size_append]
      omega
    · rw [Text.size_append]
      omega
  refine ⟨fits_of_slice? houter, ?_⟩
  rw [text_append]
  exact Text.slice_eq houter

end Span

end Emend
