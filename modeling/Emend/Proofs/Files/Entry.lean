import Emend.Files.Change
import Emend.Proofs.Files.Leads
/-!
# The entry of a path

A path names an entry: its last name in the directory that the rest leads to.  The
entry says what can be found at the path.  With nothing there, nothing is found;
a link is found as a link, and may lead anywhere or nowhere; anything else is
where the path leads (`isThere_iff`, `canonical_of_entry`).

What is looked up at a path is what is at the place that it leads to
(`file?_eq_some`, `isDirectory_iff`).
-/

namespace Emend.FileTree

variable {tree : FileTree}

/-- Whether there is something at a path, be it a link that leads nowhere. -/
def isThere (tree : FileTree) (path : Path) : Bool := tree.hasTarget path || tree.isLink path

/-! ## What is looked up at a path -/

theorem target?_of_canonical {path place : Path} (h : tree.canonical path = .ok place) :
    tree.target? path = tree.get? place := by
  simp [target?, h, Except.toOption]

theorem target?_of_error {path : Path} {e : FileError} (h : tree.canonical path = .error e) :
    tree.target? path = none := by
  simp [target?, h, Except.toOption]

theorem target?_eq_some {path : Path} {node : Node} : tree.target? path = some node ↔
    ∃ place, tree.canonical path = .ok place ∧ tree.get? place = some node := by
  cases h : tree.canonical path with
  | error e => simp [target?_of_error h]
  | ok place => simp [target?_of_canonical h]

theorem hasTarget_iff {path : Path} :
    tree.hasTarget path = true ↔ ∃ place, tree.canonical path = .ok place := by
  cases h : tree.canonical path with
  | error e => simp [hasTarget, target?_of_error h]
  | ok place =>
      obtain ⟨node, hnode, -⟩ := (isPlace_of_canonical h).found
      simp [hasTarget, target?_of_canonical h, hnode]

theorem isThere_of_canonical {path place : Path} (h : tree.canonical path = .ok place) :
    tree.isThere path = true := by
  rw [isThere, hasTarget_iff.2 ⟨place, h⟩, Bool.true_or]

theorem isDirectory_iff {path : Path} : tree.isDirectory path = true ↔
    ∃ place, tree.canonical path = .ok place ∧ tree.get? place = some .directory := by
  simp [isDirectory, target?_eq_some]

theorem file?_eq_some {path : Path} {bytes : Bytes} : tree.file? path = some bytes ↔
    ∃ place, tree.canonical path = .ok place ∧ tree.get? place = some (.file bytes) := by
  rw [← target?_eq_some, file?]
  split <;> simp_all

theorem read_eq_ok {path : Path} {bytes : Bytes} :
    tree.read path = .ok bytes ↔ tree.file? path = some bytes := by
  rw [file?_eq_some]
  cases h : tree.canonical path with
  | error e => simp [read, h, bind, Except.bind]
  | ok place =>
      cases hnode : tree.get? place with
      | none => simp [read, h, hnode, bind, Except.bind, throw, throwThe, MonadExceptOf.throw]
      | some node =>
          cases node <;>
            simp [read, h, hnode, bind, Except.bind, throw, throwThe, MonadExceptOf.throw, pure,
              Except.pure]

/-- What is written leads somewhere if it is not empty and its parts do. -/
theorem canonicalFrom_eq_ok {dir place : Path} {written : Text} :
    tree.canonicalFrom dir written = .ok place ↔
      written ≠ [] ∧ tree.canonical (partsFrom dir written) = .ok place := by
  cases written <;> simp [canonicalFrom]

/-! ## The entry -/

theorem entryOf_concat (tree : FileTree) (above : Path) (name : Text) :
    tree.entryOf (above ++ [name]) =
      if (above ++ [name]).any Path.hasNul then .error .nulInPath
      else (tree.canonical above).bind fun dir =>
        if tree.get? dir = some .directory then
          if Path.isLong name then .error .nameTooLong else .ok (dir ++ [name])
        else .error .notDirectory := by
  unfold entryOf
  simp only [List.getLast?_concat, List.dropLast_concat, bind, Except.bind, pure, Except.pure,
    throw, throwThe, MonadExceptOf.throw]
  cases (above ++ [name]).any Path.hasNul with
  | true => rfl
  | false =>
  cases tree.canonical above with
  | error e => rfl
  | ok dir =>
  by_cases hd : tree.get? dir = some .directory
  · cases Path.isLong name <;> simp [hd]
  · simp [hd]

/-- A path has an entry if the rest of it leads to a directory. -/
theorem entryOf_concat_eq_ok {above entry : Path} {name : Text} :
    tree.entryOf (above ++ [name]) = .ok entry ↔
      ∃ dir, (above ++ [name]).any Path.hasNul = false ∧ tree.canonical above = .ok dir ∧
        tree.get? dir = some .directory ∧ Path.isLong name = false ∧ entry = dir ++ [name] := by
  rw [entryOf_concat]
  cases hnul : (above ++ [name]).any Path.hasNul with
  | true => simp
  | false =>
  cases hc : tree.canonical above with
  | error e => simp [Except.bind]
  | ok dir =>
  by_cases hd : tree.get? dir = some .directory
  · cases hl : Path.isLong name with
    | true => simp [Except.bind, hd]
    | false => simp [Except.bind, hd, eq_comm]
  · simp [Except.bind, hd]

theorem entryOf_eq_ok {path entry : Path} : tree.entryOf path = .ok entry ↔
    ∃ above name dir, path = above ++ [name] ∧ path.any Path.hasNul = false ∧
      tree.canonical above = .ok dir ∧ tree.get? dir = some .directory ∧
      Path.isLong name = false ∧ entry = dir ++ [name] := by
  constructor
  · intro h
    rcases List.eq_nil_or_concat path with rfl | ⟨above, name, rfl⟩
    · cases h
    · rw [List.concat_eq_append] at h ⊢
      obtain ⟨dir, hdir⟩ := entryOf_concat_eq_ok.1 h
      exact ⟨above, name, dir, rfl, hdir⟩
  · rintro ⟨above, name, dir, rfl, hdir⟩
    exact entryOf_concat_eq_ok.2 ⟨dir, hdir⟩

/-- A walk to a path is a walk to the rest of it and then one more step. -/
theorem locate_concat {above dir : Path} {name : Text} (follow : Bool)
    (hnul : (above ++ [name]).any Path.hasNul = false) (h : tree.canonical above = .ok dir) :
    ∃ m, tree.locate follow (above ++ [name]) = walk tree follow m dir [name] := by
  obtain ⟨-, m, hs⟩ := canonical_eq_ok.1 h
  refine ⟨m, ?_⟩
  rw [locate, if_neg (by simp [hnul]), hs.walk_append follow [name] (.inl (by simp))]

section Entries

variable {above dir entry : Path} {name : Text} (hname : Path.isPlain name = true)

include hname

/-- What is found at a path, with or without following a link that is there, is
found at its entry. -/
theorem locate_concat_eq_ok {follow : Bool} {place : Path}
    (h : tree.locate follow (above ++ [name]) = .ok place) :
    ∃ entry node, tree.entryOf (above ++ [name]) = .ok entry ∧ tree.get? entry = some node ∧
      ((∀ target, node ≠ .link target) → place = entry) := by
  have hnul : (above ++ [name]).any Path.hasNul = false := by
    cases hnul : (above ++ [name]).any Path.hasNul with
    | false => rfl
    | true => rw [locate, if_pos hnul] at h; cases h
  have habove : ∃ dir, tree.canonical above = .ok dir := by
    rcases leads_or_error tree maxLinks above [] with ⟨m, dir, hs⟩ | ⟨e, he⟩
    · refine ⟨dir, canonical_eq_ok.2 ⟨?_, m, hs⟩⟩
      rw [List.any_append, Bool.or_eq_false_iff] at hnul
      exact hnul.1
    · rw [locate, if_neg (by simp [hnul]), he follow [name] (.inl (by simp))] at h
      cases h
  obtain ⟨dir, hdir⟩ := habove
  obtain ⟨m, hm⟩ := locate_concat follow hnul hdir
  rw [hm] at h
  obtain ⟨hdot, hup⟩ := Path.isPlain_iff.1 hname
  by_cases hd : tree.get? dir ≠ some .directory
  · rw [walk_notDirectory hd] at h; cases h
  rw [ne_eq, Classical.not_not] at hd
  cases hl : Path.isLong name with
  | true => rw [walk_long hd hdot hup hl] at h; cases h
  | false =>
  have hn := Path.isName_iff.2 ⟨hdot, hup, hl⟩
  have hentry := entryOf_concat_eq_ok.2 ⟨dir, hnul, hdir, hd, hl, rfl⟩
  cases hnode : tree.get? (dir ++ [name]) with
  | none => rw [walk_missing hd hn hnode] at h; cases h
  | some node =>
      refine ⟨_, node, hentry, hnode, fun hlink => ?_⟩
      rw [walk_name hd hn hnode hlink, walk_nil] at h
      cases h
      rfl

/-- A walk to a path that has an entry is one step in the directory of the entry. -/
theorem locate_of_entryOf (follow : Bool) (h : tree.entryOf (above ++ [name]) = .ok entry) :
    ∃ m dir, entry = dir ++ [name] ∧ tree.get? dir = some .directory ∧ Path.isName name = true ∧
      tree.locate follow (above ++ [name]) = walk tree follow m dir [name] := by
  obtain ⟨dir, hnul, hdir, hd, hl, rfl⟩ := entryOf_concat_eq_ok.1 h
  obtain ⟨hdot, hup⟩ := Path.isPlain_iff.1 hname
  obtain ⟨m, hm⟩ := locate_concat follow hnul hdir
  exact ⟨m, dir, rfl, hd, Path.isName_iff.2 ⟨hdot, hup, hl⟩, hm⟩

/-- A path leads to its entry if there is something other than a link. -/
theorem canonical_of_entry {node : Node} (h : tree.entryOf (above ++ [name]) = .ok entry)
    (hnode : tree.get? entry = some node) (hlink : ∀ target, node ≠ .link target) :
    tree.canonical (above ++ [name]) = .ok entry := by
  obtain ⟨m, dir, rfl, hd, hn, hm⟩ := locate_of_entryOf hname true h
  rw [canonical, hm, walk_name hd hn hnode hlink, walk_nil]

theorem isLink_of_entry {target : Text} (h : tree.entryOf (above ++ [name]) = .ok entry)
    (hnode : tree.get? entry = some (.link target)) : tree.isLink (above ++ [name]) = true := by
  obtain ⟨m, dir, rfl, hd, hn, hm⟩ := locate_of_entryOf hname false h
  have hw := walk_last_link (n := m) hd hn hnode
  simp [isLink, hm, hw, Except.toOption, hnode]

/-- There is something at a path if there is something at its entry. -/
theorem isThere_iff : tree.isThere (above ++ [name]) = true ↔
    ∃ entry node, tree.entryOf (above ++ [name]) = .ok entry ∧ tree.get? entry = some node := by
  constructor
  · intro h
    rw [isThere, Bool.or_eq_true] at h
    rcases h with h | h
    · obtain ⟨place, hplace⟩ := hasTarget_iff.1 h
      obtain ⟨entry, node, he, hnode, -⟩ := locate_concat_eq_ok hname hplace
      exact ⟨entry, node, he, hnode⟩
    · cases hl : tree.locate false (above ++ [name]) with
      | error e => simp [isLink, hl, Except.toOption] at h
      | ok place =>
          obtain ⟨entry, node, he, hnode, -⟩ := locate_concat_eq_ok hname hl
          exact ⟨entry, node, he, hnode⟩
  · rintro ⟨entry, node, he, hnode⟩
    rw [isThere, Bool.or_eq_true]
    cases node with
    | link target => exact .inr (isLink_of_entry hname he hnode)
    | file bytes =>
        exact .inl (hasTarget_iff.2 ⟨entry, canonical_of_entry hname he hnode (by simp)⟩)
    | directory =>
        exact .inl (hasTarget_iff.2 ⟨entry, canonical_of_entry hname he hnode (by simp)⟩)

end Entries

end Emend.FileTree
