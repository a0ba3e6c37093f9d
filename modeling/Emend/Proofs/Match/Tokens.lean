import Emend.Proofs.Match.Strategies
import Emend.Proofs.Match.TokenPlaces
/-!
# Runs of tokens

A run has at least one token and no more than there are (`mem_windows`), and its tokens are at their
places in the text, so the span of a run fits the text (`window_fits`).
-/

namespace Emend

namespace Tokens

/-! ## Runs -/

/-- A run starts at one of the tokens, and has as many as there are from there on. -/
theorem mem_windows {low high : Nat} {tokens : List Token} {w : Window}
    (h : w ∈ windows low high tokens) :
    w.rest <:+ tokens ∧ low ≤ w.count ∧ w.count ≤ w.rest.length := by
  induction tokens with
  | nil => cases h
  | cons token tokens ih =>
      rw [windows] at h
      rcases List.mem_append.1 h with h | h
      · obtain ⟨count, hcount, rfl⟩ := List.mem_map.1 h
        rw [List.mem_range'_1] at hcount
        simp only
        exact ⟨List.suffix_refl _, hcount.1, by omega⟩
      · obtain ⟨hsuffix, hcount⟩ := ih h
        exact ⟨hsuffix.trans (List.suffix_cons _ _), hcount⟩

theorem window_fits {content : Text} {w : Window} {tokens : List Token}
    (h : Text.Rows content (tokens.map Token.span)) (hw : w.rest <:+ tokens) :
    w.span.Fits content := by
  unfold Window.span
  have htokens : w.tokens.Sublist tokens := (List.take_sublist _ _).trans hw.sublist
  have hrows := h.sublist (htokens.map Token.span)
  cases hrun : w.tokens with
  | nil => exact Span.fits_zero content
  | cons first rest =>
      rw [hrun, List.map_cons] at hrows
      have hlast := hrows.to_last
      rwa [List.getLastD_map] at hlast

end Tokens

/-! ## The strategy -/

theorem Checked.tokens_ok (folding : Folding) (t : Text) :
    Checked.tokens folding t = .ok (Tokens.ofText folding t) := by
  unfold tokens Tokens.ofText
  cases folding.ignoreComments with
  | false => cases folding.caseSensitive <;> rfl
  | true =>
      simp only [if_true, maskComments_eq, bind, Except.bind]
      cases folding.caseSensitive <;> rfl

theorem Checked.findTokens_agrees (content pattern : Text) (options : MatchOptions) :
    Checked.Agrees content (Checked.findTokens content pattern options)
      (Tokens.find content pattern options) := by
  have hrows := Tokens.tokens_rows options.folding content
  have hfit : ∀ low high, ∀ w ∈ Tokens.windows low high (Tokens.ofText options.folding content),
      w.span.Fits content := fun _ _ _ hw => Tokens.window_fits hrows (Tokens.mem_windows hw).1
  have htexts : ∀ low high, 1 ≤ low →
      ∀ w ∈ Tokens.windows low high (Tokens.ofText options.folding content),
        Checked.texts w = .ok w.texts := by
    intro low high hlow w hw
    obtain ⟨-, hleast, hmost⟩ := Tokens.mem_windows hw
    exact if_pos ⟨Nat.le_trans hlow hleast, hmost⟩
  unfold findTokens Tokens.find
  simp only [tokens_ok, bind, Except.bind]
  split
  · exact agrees_none content
  · next hsought =>
    have hbase : 1 ≤ if 0 < options.windowSize then options.windowSize
        else ((Tokens.ofText options.folding pattern).map Token.text).length := by
      split
      · omega
      · exact List.length_pos_iff.2 fun hnil => hsought (by rw [hnil]; rfl)
    generalize (if 0 < options.windowSize then options.windowSize else _) = base at hbase ⊢
    split
    · exact agrees_first Tokens.Window.span (hfit _ _) (htexts _ _ hbase) fun words =>
        words == (Tokens.ofText options.folding pattern).map Token.text
    · rw [Option.map_map]
      exact agrees_best Tokens.Window.span (hfit _ _) (htexts _ _ (Nat.le_max_right _ 1))
        (fun s => Distance.meets s options.threshold) fun words =>
          Distance.similarity ((Tokens.ofText options.folding pattern).map Token.text) words
            options.threshold

end Emend
