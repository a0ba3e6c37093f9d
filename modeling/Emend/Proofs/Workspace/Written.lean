import Emend.Proofs.Text.DocumentLines
import Emend.Proofs.Workspace.Bare
/-!
# Plainly written paths

A path is written plainly if its parts are names: no dots and no empty parts.  The guard takes it
for the base and its parts (`resolve_plain`).  Put after the base, as the base is written, it leads
to the same file if there is no link below the base (`file?_joinText`), however many links are
passed on the way to the base: below it, a walk meets none (`walk_bare`).
-/

namespace Emend

open FileTree

namespace Path

/-- All parts of a written path are names. -/
def Plain (written : Text) : Prop := ∀ part ∈ parts written, isPlain part = true

instance (written : Text) : Decidable (Plain written) :=
  inferInstanceAs (Decidable (∀ part ∈ parts written, isPlain part = true))

theorem isAbsolute_append {a : Text} (h : a ≠ []) (b : Text) :
    isAbsolute (a ++ b) = isAbsolute a := by
  cases a with
  | nil => exact absurd rfl h
  | cons c a =>
      by_cases hc : c = '/' <;> simp [isAbsolute, Text.startsWith, Text.afterLead?, hc]

theorem Plain.isAbsolute {written : Text} (h : Plain written) : isAbsolute written = false := by
  cases written with
  | nil => rfl
  | cons c t =>
      by_cases hc : c = '/'
      · subst hc
        exact absurd (h [] (by simp [parts, Text.splitOn])) (by decide)
      · simp [Path.isAbsolute, Text.startsWith, Text.afterLead?, hc]

/-- What is written after something is not empty. -/
theorem joinText_ne_nil {base : Text} (hempty : base ≠ []) (written : Text) :
    joinText base written ≠ [] := by
  unfold joinText
  split
  · rintro rfl
    simp [Path.isAbsolute, Text.startsWith, Text.afterLead?] at *
  · split <;> simp [hempty]

/-- What is written after a directory has the parts of both; a slash at the end of the directory
makes no part. -/
theorem partsFrom_joinText (dir : Path) {base written : Text} (hempty : base ≠ [])
    (h : Plain written) :
    ∃ front, (partsFrom dir base = front ∨ partsFrom dir base = front ++ [[]]) ∧
      partsFrom dir (joinText base written) = front ++ parts written := by
  have hrelative := h.isAbsolute
  have hjoin : ∀ front : Text, parts (front ++ '/' :: written) = parts front ++ parts written :=
    fun front => Text.splitOn_append '/' front written
  have hsame := isAbsolute_append hempty
  cases htail : Text.beforeTail? ['/'] base with
  | some front =>
      have hbase := Text.beforeTail?_eq_some htail
      have hends : Text.endsWith ['/'] base = true := by
        rw [Text.endsWith, htail]
        rfl
      have hall : joinText base written = front ++ '/' :: written := by
        rw [joinText, if_neg (by simp [hrelative]), if_pos (by simp [hends]), hbase,
          List.append_assoc]
        rfl
      have hparts : parts base = parts front ++ [[]] := by
        rw [hbase]
        exact Text.splitOn_append '/' front []
      have habsolute : isAbsolute (front ++ '/' :: written) = isAbsolute base := by
        rw [← hsame written, hbase]
        simp
      rw [hall, partsFrom, partsFrom, habsolute, hjoin, hparts]
      split
      · exact ⟨parts front, .inr rfl, rfl⟩
      · exact ⟨dir ++ parts front, .inr (by simp), by simp⟩
  | none =>
      have hall : joinText base written = base ++ '/' :: written := by
        simp [joinText, hrelative, Text.endsWith, htail, hempty]
      rw [hall, partsFrom, partsFrom, hsame, hjoin]
      split
      · exact ⟨parts base, .inl rfl, rfl⟩
      · exact ⟨dir ++ parts base, .inl rfl, by simp⟩

end Path

namespace Guard

theorem fold_of_plain {parts : List Text} (h : ∀ part ∈ parts, Path.isPlain part = true)
    (names : Path) : fold names parts = some (names ++ parts) := by
  induction parts generalizing names with
  | nil => simp [fold]
  | cons part parts ih =>
      obtain ⟨hpart, hparts⟩ := List.forall_mem_cons.1 h
      obtain ⟨hdot, hup⟩ := Path.isPlain_iff.1 hpart
      rw [fold, if_neg (by simp [hdot]), if_neg (by simp [hup]), ih hparts]
      simp

/-- A path that is written plainly stands for the base and its parts. -/
theorem resolve_plain {tree : FileTree} {base path : Path} {written : Text}
    (hplain : Path.Plain written) (h : resolve tree base written = .ok path) :
    path = base ++ Path.parts written := by
  obtain ⟨names, -, hfold, rfl, -⟩ := resolve_iff.1 h
  rw [fold_of_plain hplain, List.nil_append] at hfold
  rw [Option.some.inj hfold]

end Guard

/-! ## Below a base without links -/

section

variable {tree : FileTree} {base : Path} (h : Bare base tree)

include h

/-- A walk along names does not depend on how many links it may follow. -/
theorem walk_bare {parts : List Text} (hparts : ∀ part ∈ parts, Path.isPlain part = true)
    (n m : Nat) {dir : Path} (hdir : base <+: dir) :
    walk tree true n dir parts = walk tree true m dir parts := by
  induction parts generalizing dir with
  | nil => rw [walk_nil, walk_nil]
  | cons part parts ih =>
      obtain ⟨hpart, hrest⟩ := List.forall_mem_cons.1 hparts
      obtain ⟨hdot, hup⟩ := Path.isPlain_iff.1 hpart
      by_cases hd : tree.get? dir = some .directory
      · cases hlong : Path.isLong part with
        | true => rw [walk_long hd hdot hup hlong, walk_long hd hdot hup hlong]
        | false =>
        have hname := Path.isName_iff.2 ⟨hdot, hup, hlong⟩
        cases hnode : tree.get? (dir ++ [part]) with
        | none => rw [walk_missing hd hname hnode, walk_missing hd hname hnode]
        | some node =>
            have hlink : ∀ target, node ≠ .link target := fun target heq =>
              h.linkFree _ (Path.below_concat hdir part) target (heq ▸ hnode)
            rw [walk_name hd hname hnode hlink, walk_name hd hname hnode hlink,
              ih hrest (hdir.trans (List.prefix_append _ _))]
      · rw [walk_notDirectory hd, walk_notDirectory hd]

/-- Names lead to the same after any path to the base. -/
theorem canonical_append {front : Path} (hfront : tree.canonical front = .ok base)
    {parts : List Text} (hparts : ∀ part ∈ parts, Path.isPlain part = true) :
    tree.canonical (front ++ parts) = tree.canonical (base ++ parts) := by
  obtain ⟨hnul, n, hleads⟩ := canonical_eq_ok.1 hfront
  obtain ⟨hnulBase, m, hleadsBase⟩ := canonical_eq_ok.1 h.grounded.leads
  rw [canonical, canonical, locate, locate, List.any_append, List.any_append, hnul, hnulBase,
    hleads.walk_append true parts (.inr rfl), hleadsBase.walk_append true parts (.inr rfl),
    walk_bare h hparts n m (List.prefix_refl base)]

/-- A path that is written plainly leads to the same file after the base as it is written and
after the base itself. -/
theorem file?_joinText {dir : Path} {asked written : Text}
    (hbase : tree.canonicalFrom dir asked = .ok base) (hplain : Path.Plain written) :
    tree.file? (partsFrom dir (Path.joinText asked written)) =
      tree.file? (base ++ Path.parts written) := by
  obtain ⟨hempty, hcanonical⟩ := canonicalFrom_eq_ok.1 hbase
  obtain ⟨front, hasked, hjoin⟩ := Path.partsFrom_joinText dir hempty hplain
  have hfront : tree.canonical front = .ok base := by
    rcases hasked with hasked | hasked
    · rw [← hasked]
      exact hcanonical
    · rw [hasked] at hcanonical
      obtain ⟨hnul, m, hleads⟩ := canonical_eq_ok.1 hcanonical
      rw [List.any_append, Bool.or_eq_false_iff] at hnul
      rcases leads_or_error tree maxLinks front [] with ⟨n, place, hplace⟩ | ⟨e, herror⟩
      · -- The empty part is walked from a directory, and leads nowhere else.
        have hwalk := walk_eq_ok.2 ⟨m, hleads⟩
        rw [hplace.walk_append true [[]] (.inr rfl)] at hwalk
        by_cases hd : tree.get? place = some .directory
        · rw [walk_dot hd rfl, walk_nil, Except.ok.injEq] at hwalk
          exact canonical_eq_ok.2 ⟨hnul.1, n, hwalk ▸ hplace⟩
        · rw [walk_notDirectory hd] at hwalk
          cases hwalk
      · have hwalk := walk_eq_ok.2 ⟨m, hleads⟩
        rw [herror true [[]] (.inr rfl)] at hwalk
        cases hwalk
  rw [hjoin, file?, file?, target?, target?, canonical_append h hfront hplain]

end

end Emend
