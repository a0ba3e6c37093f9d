import Emend.Proofs.Signature.Brackets
/-!
# Parts of a list

Nothing is lost when a list is cut into its parts, and no two parts are put together
(`splitTopLevel_exact`).

*Parts that are put together.*  Balanced parts come back from a list, whatever blanks are around its
commas (`splitTopLevel_padded`).

*Any text.*  What is left out are the commas outside of all brackets (`Separates`) and blanks: the
pieces between these commas hold all the rest, in order (`flatten_commaPieces`), and the parts are
these pieces without the blanks around them.
-/

namespace Emend

/-! ## Commas outside of brackets -/

/-- The number of open brackets after a text, and the last character of the text. -/
def bracketState (t : Text) : Nat × Char :=
  t.foldl (fun state c => (bracketDepth state.1 state.2 c, c)) (0, ' ')

theorem bracketState_concat (t : Text) (c : Char) :
    bracketState (t ++ [c]) = (bracketDepth (bracketState t).1 (bracketState t).2 c, c) :=
  List.foldl_concat ..

/-- A text has a comma at a place, and no bracket before it is open there. -/
def Separates (t : Text) (i : Nat) : Prop := t[i]? = some ',' ∧ (bracketState (t.take i)).1 = 0

instance (t : Text) (i : Nat) : Decidable (Separates t i) := inferInstanceAs (Decidable (_ ∧ _))

theorem separates_length (before : Text) (c : Char) (after : Text) :
    Separates (before ++ c :: after) before.length ↔ c = ',' ∧ (bracketState before).1 = 0 := by
  simp [Separates]

/-- The text without its commas outside of brackets. -/
def dropSeparators (t : Text) : Text :=
  (t.zipIdx.filter fun place => !decide (Separates t place.2)).map Prod.fst

theorem flatten_modifyHead_cons {pieces : List Text} (h : pieces ≠ []) (c : Char) :
    (pieces.modifyHead (c :: ·)).flatten = c :: pieces.flatten := by
  cases pieces with
  | nil => exact absurd rfl h
  | cons piece pieces => rfl

/-- The pieces of what comes after a text hold all of it but its commas outside of brackets. -/
theorem flatten_commaPieces (before t : Text) :
    (commaPieces (bracketState before).1 (bracketState before).2 t).flatten =
      ((t.zipIdx before.length).filter fun place =>
        !decide (Separates (before ++ t) place.2)).map Prod.fst := by
  induction t generalizing before with
  | nil => rfl
  | cons c t ih =>
      have hnext := ih (before ++ [c])
      rw [bracketState_concat, List.length_append, List.length_singleton, List.append_assoc,
        List.singleton_append] at hnext
      rw [List.zipIdx_cons]
      by_cases hcut : Separates (before ++ c :: t) before.length
      · rw [List.filter_cons_of_neg (by simpa using hcut), ← hnext]
        obtain ⟨rfl, hdepth⟩ := (separates_length before c t).1 hcut
        rw [commaPieces, if_pos ⟨rfl, hdepth⟩, hdepth]
        rfl
      · have hcomma := mt (separates_length before c t).2 hcut
        rw [List.filter_cons_of_pos (by simpa using hcut), List.map_cons, ← hnext,
          commaPieces_cons hcomma, flatten_modifyHead_cons (commaPieces_ne_nil _ _ _)]

theorem flatten_commaPieces_eq (t : Text) : (commaPieces 0 ' ' t).flatten = dropSeparators t :=
  flatten_commaPieces [] t

/-! ## What parts hold -/

theorem dropBlanks_splitTopLevel (t : Text) :
    Text.dropBlanks (splitTopLevel t).flatten = Text.dropBlanks (dropSeparators t) := by
  have htrim : (fun piece => Text.dropBlanks (Text.trim piece)) = Text.dropBlanks :=
    funext Text.dropBlanks_trim
  calc Text.dropBlanks (splitTopLevel t).flatten
      = Text.dropBlanks ((commaPieces 0 ' ' t).map Text.trim).flatten := by
        rw [splitTopLevel, List.flatten_filter_not_isEmpty]
    _ = ((commaPieces 0 ' ' t).map Text.dropBlanks).flatten := by
        rw [Text.dropBlanks_flatten, List.map_map, Function.comp_def, htrim]
    _ = Text.dropBlanks (dropSeparators t) := by
        rw [← Text.dropBlanks_flatten, flatten_commaPieces_eq]

/-- A list of balanced parts, with commas and any blanks between them, is cut into these parts.  The
parts of any text are trimmed and not empty, and they hold what the text holds, in order, but for
blanks and for the commas that are met outside of brackets. -/
theorem splitTopLevel_exact :
    (∀ parts pieces : List Text, (∀ p ∈ parts, IsPiece p ∧ Text.trim p = p ∧ p ≠ []) →
      List.Forall₂ Text.Padded parts pieces → splitTopLevel (Text.join [','] pieces) = parts) ∧
    ∀ t, (∀ p ∈ splitTopLevel t, p ≠ [] ∧ Text.trim p = p) ∧
      Text.dropBlanks (splitTopLevel t).flatten = Text.dropBlanks (dropSeparators t) := by
  refine ⟨fun parts pieces h hpadded => splitTopLevel_padded h hpadded, fun t =>
    ⟨fun p hp => ?_, dropBlanks_splitTopLevel t⟩⟩
  obtain ⟨hmem, hne⟩ := List.mem_filter.1 hp
  obtain ⟨piece, -, rfl⟩ := List.mem_map.1 hmem
  exact ⟨by simpa using hne, Text.trim_trim piece⟩

/-- Parts that have commas and an arrow inside of brackets, and blanks around the comma. -/
theorem splitTopLevel_exact_blanks :
    splitTopLevel "a: Map<K, V>\t,\n b: (A, () -> B)".toList =
      ["a: Map<K, V>".toList, "b: (A, () -> B)".toList] ∧
    "b(, c".toList ∈ splitTopLevel ">a ,, b(, c ".toList ∧
    Text.trim "b(, c".toList = "b(, c".toList := by
  obtain ⟨hparts, hany⟩ := splitTopLevel_exact
  have hmem : "b(, c".toList ∈ splitTopLevel ">a ,, b(, c ".toList := by decide
  refine ⟨?_, hmem, ((hany _).1 _ hmem).2⟩
  refine hparts _ ["a: Map<K, V>\t".toList, "\n b: (A, () -> B)".toList] (by decide) ?_
  refine .cons ⟨[], ['\t'], ?_⟩ (.cons ⟨['\n', ' '], [], ?_⟩ .nil)
  · decide
  · decide

end Emend
