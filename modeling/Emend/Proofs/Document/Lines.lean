import Emend.Document.Line
import Emend.Proofs.Text.Blanks
/-!
# Forms of lines

For each form of line, what a line of this form is, whatever text it holds.  The forms are
tried in order, but a line of one of them is none of those before: they begin differently.
-/

namespace Emend.Document

/-! ## Values -/

theorem stripTicks_congr {a b : Text} (h : Text.trim a = Text.trim b) :
    stripTicks a = stripTicks b := by
  unfold stripTicks
  rw [h]

/-- A text between backticks. -/
def Enclosed (t : Text) : Prop := ∃ inside, t = '\x60' :: inside ++ ['\x60']

theorem stripTicks_eq_self {t : Text} (htrim : Text.trim t = t) (hticks : ¬ Enclosed t) :
    stripTicks t = t := by
  unfold stripTicks
  rw [htrim]
  simp only
  split
  · next rest =>
    split
    · next inside hinside =>
      rw [Text.beforeTail?_eq_some hinside] at hticks
      exact absurd ⟨inside, rfl⟩ hticks
    · rfl
  · rfl

namespace Line

/-! ## Lines of the whole -/

theorem ofText_congr {a b : Text} (h : Text.trim a = Text.trim b) : ofText a = ofText b := by
  unfold ofText
  rw [h]

theorem ofText_patchStart (name : Text) :
    ofText ("### PATCH:".toList ++ name) = .patchStart (Text.trim name) := by
  unfold ofText
  rw [Text.trim_append _ rfl rfl (by decide) (by decide), ← Text.trim_trimEnd name]
  rfl

theorem ofText_fileHeader (header : Text) :
    ofText ("#### File:".toList ++ header) = .fileHeader (Text.trim header) := by
  unfold ofText
  rw [Text.trim_append _ rfl rfl (by decide) (by decide), ← Text.trim_trimEnd header]
  rfl

theorem ofText_fileHeader_closed (header : Text) :
    ofText ("--- FILE:".toList ++ header ++ ['-', '-', '-']) = .fileHeader (Text.trim header) := by
  have htrim := Text.trim_append ("--- FILE:".toList ++ header ++ ['-', '-', '-'])
    (c := '-') (d := '-') rfl (by rw [List.getLast?_append]; rfl) (by decide) (by decide) []
  have hheader : headerOf? ("--- FILE:".toList ++ header ++ ['-', '-', '-']) =
      some (Text.trim header) := by
    have hleads : headerOf? ("--- FILE:".toList ++ (header ++ ['-', '-', '-'])) =
        (Text.beforeTail? ['-', '-', '-'] (header ++ ['-', '-', '-'])).map Text.trim := rfl
    rw [List.append_assoc, hleads, Text.beforeTail?_append]
    rfl
  have hfence : fenceOf? ("--- FILE:".toList ++ header ++ ['-', '-', '-']) = none := rfl
  rw [List.append_nil, Text.trimEnd, Text.dropEndWhile, List.append_nil] at htrim
  unfold ofText
  rw [htrim]
  simp only [hfence, hheader]
  rfl

/-! ## Fields and options -/

theorem isAlpha_of_capital {key : Text} (h : key.head?.any Char.isUpper) :
    key.head?.any Char.isAlpha := by
  cases key with
  | nil => cases h
  | cons c key =>
      exact Text.isAlpha_iff.2 (.inl h)

theorem isOptionChar_of_capital {key : Text} (h : key.all isCapitalChar) :
    key.all isOptionChar := by
  refine List.all_eq_true.2 fun c hc => ?_
  have hcapital := List.all_eq_true.1 h c hc
  simp only [isCapitalChar, Bool.or_eq_true] at hcapital
  simp only [isOptionChar, Bool.or_eq_true, Text.isAlphanum_iff, Text.isAlpha_iff]
  rcases hcapital with (hupper | hdigit) | hline
  · exact .inl (.inl (.inl (.inl hupper)))
  · exact .inl (.inl (.inr hdigit))
  · exact .inl (.inr hline)

theorem takeWhile_key {p : Char → Bool} {key : Text} (hkey : ∀ c ∈ key, p c) {c : Char}
    (hc : p c = false) (rest : Text) : (key ++ c :: rest).takeWhile p = key := by
  rw [List.takeWhile_append_of_pos hkey, List.takeWhile_cons_of_neg (by simp [hc]),
    List.append_nil]

theorem dropWhile_key {p : Char → Bool} {key : Text} (hkey : ∀ c ∈ key, p c) {c : Char}
    (hc : p c = false) (rest : Text) : (key ++ c :: rest).dropWhile p = c :: rest := by
  rw [List.dropWhile_append_of_pos hkey, List.dropWhile_cons_of_neg (by simp [hc])]

theorem boldField?_eq_some {key : Text} (hne : key ≠ []) (hkey : '*' ∉ key) (value : Text) :
    boldField? ('*' :: '*' :: (key ++ ':' :: '*' :: '*' :: value)) =
      some (normalizeKey key, Text.trim value) := by
  have hkeep : ∀ c ∈ key ++ [':'], (c != '*') = true := by
    intro c hc
    rcases List.mem_append.1 hc with hc | hc
    · exact bne_iff_ne.2 fun h => hkey (h ▸ hc)
    · rw [List.mem_singleton.1 hc]
      rfl
  have hsplit : key ++ ':' :: '*' :: '*' :: value = key ++ [':'] ++ '*' :: '*' :: value := by simp
  obtain ⟨c, inside, rfl⟩ := List.exists_cons_of_ne_nil hne
  rw [hsplit]
  simp only [boldField?, Text.afterLead?, if_true, Option.bind_eq_bind, Option.bind_some,
    takeWhile_key hkeep (c := '*') rfl, dropWhile_key hkeep (c := '*') rfl,
    Text.beforeTail?_append]
  rfl

/-- A field in bold letters. -/
theorem ofText_bold {key : Text} (hne : key ≠ []) (hkey : '*' ∉ key) (value : Text) :
    ofText ("**".toList ++ key ++ ":**".toList ++ value) =
      .field (normalizeKey key) (Text.trim value) := by
  have htrim := Text.trim_append ("**".toList ++ key ++ ":**".toList)
    (c := '*') (d := '*') rfl (by rw [List.getLast?_append]; rfl) (by decide) (by decide) value
  have hline : "**".toList ++ key ++ ":**".toList ++ Text.trimEnd value =
      '*' :: '*' :: (key ++ ':' :: '*' :: '*' :: Text.trimEnd value) := by
    simp
  have hfence : ∀ t, fenceOf? ('*' :: '*' :: t) = none := fun _ => rfl
  have hheader : ∀ t, headerOf? ('*' :: '*' :: t) = none := fun _ => rfl
  unfold ofText
  rw [htrim, hline]
  simp only [hfence, hheader, boldField?_eq_some hne hkey, Text.trim_trimEnd]
  rfl

theorem afterColon?_cons (value : Text) : afterColon? (':' :: value) = some (Text.trim value) := by
  unfold afterColon?
  rw [Text.trimStart_cons (by decide)]
  rfl

theorem optionItem?_eq_some {key : Text} (hfirst : key.head?.any Char.isAlpha)
    (hkey : key.all isOptionChar) (value : Text) :
    optionItem? ('-' :: ' ' :: (key ++ ':' :: value)) =
      some (normalizeKey key, stripTicks (Text.trim value)) := by
  have hchars := List.all_eq_true.1 hkey
  obtain ⟨c, rest, rfl⟩ : ∃ c rest, key = c :: rest := by
    cases key with
    | nil => cases hfirst
    | cons c rest => exact ⟨c, rest, rfl⟩
  have halpha : c.isAlpha = true := hfirst
  have hblank : ¬ isBlank c := Text.not_isBlank_of_isAlphanum (by simp [Char.isAlphanum, halpha])
  have htick : c ≠ '\x60' := by
    rintro rfl
    cases hfirst
  have hlead : dropTick (Text.trimStart (c :: rest ++ ':' :: value)) =
      c :: rest ++ ':' :: value := by
    rw [List.cons_append, Text.trimStart_cons hblank, dropTick, Text.afterLead?, if_neg htick]
    rfl
  unfold optionItem?
  simp only [hlead, takeWhile_key hchars (c := ':') rfl, dropWhile_key hchars (c := ':') rfl]
  rw [if_pos ⟨Or.inl trivial, by decide⟩, if_pos hfirst]
  rw [show dropTick (':' :: value) = ':' :: value from rfl, afterColon?_cons]
  rfl

/-- An item of a list of options. -/
theorem ofText_option {key : Text} (hfirst : key.head?.any Char.isAlpha)
    (hkey : key.all isOptionChar) (value : Text) :
    ofText ("- ".toList ++ key ++ ":".toList ++ value) =
      .option (normalizeKey key) (stripTicks value) := by
  have htrim := Text.trim_append ("- ".toList ++ key ++ ":".toList)
    (c := '-') (d := ':') rfl (by rw [List.getLast?_append]; rfl) (by decide) (by decide) value
  have hline : "- ".toList ++ key ++ ":".toList ++ Text.trimEnd value =
      '-' :: ' ' :: (key ++ ':' :: Text.trimEnd value) := by
    simp
  have hfence : ∀ t, fenceOf? ('-' :: ' ' :: t) = none := fun _ => rfl
  have hheader : ∀ t, headerOf? ('-' :: ' ' :: t) = none := fun _ => rfl
  have hbold : ∀ t, boldField? ('-' :: ' ' :: t) = none := fun _ => rfl
  have hvalue : stripTicks (Text.trim (Text.trimEnd value)) = stripTicks value :=
    stripTicks_congr (by rw [Text.trim_trim, Text.trim_trimEnd])
  unfold ofText
  rw [htrim, hline]
  simp only [hfence, hheader, hbold, optionItem?_eq_some hfirst hkey, hvalue]
  rfl

theorem capitalField?_eq_some {key : Text} (hfirst : key.head?.any Char.isUpper)
    (hkey : key.all isCapitalChar) (value : Text) :
    capitalField? (key ++ ':' :: value) = some (key, Text.trim value) := by
  have hchars := List.all_eq_true.1 hkey
  unfold capitalField?
  simp only [takeWhile_key hchars (c := ':') rfl, dropWhile_key hchars (c := ':') rfl, hfirst,
    if_true, afterColon?_cons]
  rfl

/-! ## Lines that start with a capital -/

section Capital

variable {c : Char} (hupper : c.isUpper)

include hupper

/-- A text that starts with a capital starts with nothing that does not. -/
theorem afterLead?_capital (lead : Text) (hlead : lead.head?.any fun d => !d.isUpper) (t : Text) :
    Text.afterLead? lead (c :: t) = none := by
  cases lead with
  | nil => cases hlead
  | cons d lead =>
      have hd : d.isUpper = false := by simpa using hlead
      refine if_neg ?_
      rintro rfl
      exact absurd (hupper.symm.trans hd) (by decide)

theorem ne_of_capital {text : Text} (h : text.head?.any fun d => !d.isUpper) (t : Text) :
    c :: t ≠ text := by
  rintro rfl
  simp [hupper] at h

theorem fenceOf?_capital (t : Text) : fenceOf? (c :: t) = none := by
  unfold fenceOf?
  rw [afterLead?_capital hupper ['\x60', '\x60', '\x60'] rfl,
    afterLead?_capital hupper ['<', '<', '<'] rfl,
    afterLead?_capital hupper ['@', '@'] rfl]
  rfl

theorem headerOf?_capital (t : Text) : headerOf? (c :: t) = none := by
  unfold headerOf?
  rw [afterLead?_capital hupper "#### File:".toList (by decide),
    afterLead?_capital hupper "--- FILE:".toList (by decide)]
  rfl

theorem boldField?_capital (t : Text) : boldField? (c :: t) = none := by
  unfold boldField?
  rw [afterLead?_capital hupper ['*', '*'] rfl]
  rfl

theorem optionItem?_capital (t : Text) : optionItem? (c :: t) = none := by
  have hbullet : ¬ (c = '-' ∨ c = '*') := by
    rintro (rfl | rfl) <;> exact absurd hupper (by decide)
  cases t with
  | nil => rfl
  | cons d t => exact if_neg fun h => hbullet h.1

end Capital

/-- A field in capitals. -/
theorem ofText_capital {key : Text} (hfirst : key.head?.any Char.isUpper)
    (hkey : key.all isCapitalChar) (value : Text) :
    ofText (key ++ ":".toList ++ value) = .field key (Text.trim value) := by
  obtain ⟨c, rest, rfl⟩ : ∃ c rest, key = c :: rest := by
    cases key with
    | nil => cases hfirst
    | cons c rest => exact ⟨c, rest, rfl⟩
  have hupper : c.isUpper = true := hfirst
  have hblank : ¬ isBlank c :=
    Text.not_isBlank_of_isAlphanum (Text.isAlphanum_iff.2 (.inl (Text.isAlpha_iff.2 (.inl hupper))))
  have htrim := Text.trim_append (c :: rest ++ ":".toList) (c := c) (d := ':')
    rfl (by rw [List.getLast?_append]; rfl) hblank (by decide) value
  have hline : c :: rest ++ ":".toList ++ Text.trimEnd value =
      c :: (rest ++ ':' :: Text.trimEnd value) := by
    simp
  have hcapital := capitalField?_eq_some hfirst hkey (Text.trimEnd value)
  rw [Text.trim_trimEnd, List.cons_append] at hcapital
  unfold ofText
  rw [htrim, hline]
  -- The kinds of lines that are tried before start with signs, not with capitals.
  simp only [fenceOf?_capital hupper, headerOf?_capital hupper, boldField?_capital hupper,
    optionItem?_capital hupper, hcapital]
  rw [afterLead?_capital hupper "### PATCH:".toList (by decide),
    if_neg (ne_of_capital hupper (by decide) _), if_neg (ne_of_capital hupper (by decide) _),
    if_neg (ne_of_capital hupper rfl _)]

end Line

end Emend.Document
