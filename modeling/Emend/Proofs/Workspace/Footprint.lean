import Emend.Proofs.Workspace.Operations
/-!
# What one operation leaves in the tree

An operation at a path makes the directories above the path that are missing, and then
acts at the entry of the path.

*Directories.*  `Paves` says that all that is new are directories to which the parts of
a path lead one after another.  Whatever becomes of `makeDirs`, and whatever it is
refused, it does no more than this (`makeDirs_paves`).

*Entries.*  `Alters` says that apart from these directories two trees differ at the entry
of a path only, and what is there afterwards.  Writing and removing either alter the tree
so, or fail and have at most paved the way (`write_footprint`, `remove_footprint`).
-/

namespace Emend

open FileTree

namespace FileTree

variable {tree old mid new : FileTree} {path : Path} {refusals : Refusals}

/-! ## Directories on the way to a path -/

/-- One tree is the other with more directories, and each of them is on the way along a
path. -/
def Paves (path : Path) (old new : FileTree) : Prop :=
  ∀ place, new.get? place = old.get? place ∨
    (old.get? place = none ∧ new.get? place = some .directory ∧
      ∃ above, above <+: path ∧ new.canonical above = .ok place)

theorem Paves.refl (path : Path) (tree : FileTree) : Paves path tree tree := fun _ => .inl rfl

/-- What is on the way along a path is on the way along a longer one. -/
theorem Paves.longer (h : Paves path old new) (rest : Path) : Paves (path ++ rest) old new := by
  intro place
  rcases h place with hsame | ⟨hnone, hd, above, habove, hplace⟩
  · exact .inl hsame
  · exact .inr ⟨hnone, hd, above, habove.trans (List.prefix_append path rest), hplace⟩

/-- What is no directory is not new. -/
theorem Paves.get?_of_ne (h : Paves path old new) {place : Path}
    (hne : new.get? place ≠ some .directory) : new.get? place = old.get? place := by
  rcases h place with hsame | ⟨-, hd, -⟩
  · exact hsame
  · exact absurd hd hne

/-- Files and links are as they were. -/
theorem Paves.get?_iff (h : Paves path old new) {node : Node} (hnode : node ≠ .directory)
    (place : Path) : new.get? place = some node ↔ old.get? place = some node := by
  rcases h place with hsame | ⟨hnone, hd, -⟩
  · rw [hsame]
  · rw [hnone, hd]
    simp [Ne.symm hnode]

/-- A directory that is new holds nothing but directories that are new. -/
theorem Paves.inside (h : Paves path old new) (hclosed : old.Closed) {place : Path}
    (hnone : old.get? place = none) {name : Text} {node : Node}
    (hnode : new.get? (place ++ [name]) = some node) :
    old.get? (place ++ [name]) = none ∧ node = .directory := by
  have hgone : old.get? (place ++ [name]) = none := by
    by_contra hthere
    rw [hclosed place name hthere] at hnone
    cases hnone
  refine ⟨hgone, ?_⟩
  rcases h (place ++ [name]) with hsame | ⟨-, hd, -⟩
  · rw [hsame, hgone] at hnode
    cases hnode
  · exact Option.some.inj (hnode.symm.trans hd)

/-- One more directory, below those that have been made. -/
theorem Paves.ensureDir {above : Path} {name : Text} (h : Paves above old mid)
    (hname : Path.isPlain name = true) :
    Paves (above ++ [name]) old (mid.ensureDir (above ++ [name]) refusals).1 := by
  rw [FileTree.ensureDir]
  split
  · next new hnew =>
    obtain ⟨entry, he, hfree, -, rfl⟩ := makeDir_eq_ok.1 hnew
    have hne := (inDirectory_of_entryOf he).ne_nil
    have hgrows : Grows [] mid (mid.put entry .directory) :=
      Grows.put_directory mid ⟨List.nil_prefix, Ne.symm hne⟩ hfree
    have hkeeps := hgrows.keeps
    have hself := get?_put_self hne Node.directory mid
    intro place
    by_cases heq : place = entry
    · subst heq
      have hold : old.get? place = none := by
        rw [← h.get?_of_ne (by rw [hfree]; simp), hfree]
      refine .inr ⟨hold, hself, above ++ [name], List.prefix_refl _, ?_⟩
      exact canonical_of_entry hname (entryOf_keeps hkeeps he) hself (by simp)
    · have hother := get?_put_of_ne hne Node.directory mid heq
      rcases h.longer [name] place with hsame | ⟨hnone, hd, dir, hdir, hplace⟩
      · exact .inl (hother.trans hsame)
      · exact .inr ⟨hnone, hother.trans hd, dir, hdir, canonical_keeps hkeeps hplace⟩
  · exact h.longer [name]

/-- Making a directory and those above it makes nothing else, even if it fails midway. -/
theorem makeDirs_paves (hplain : ∀ n ∈ path, Path.isPlain n = true) :
    Paves path tree (tree.makeDirs path refusals).1 := by
  induction path using List.reverseRecOn with
  | nil =>
      rw [makeDirs_nil]
      exact .refl [] tree
  | append_singleton above name ih =>
      have hname := hplain name (by simp)
      have habove := ih fun n hn => hplain n (List.mem_append_left _ hn)
      have hhere : Paves (above ++ [name]) tree
          (tree.ensureDir (above ++ [name]) refusals).1 := (Paves.refl above tree).ensureDir hname
      rw [makeDirs_concat]
      split
      · split
        · next mid hmid =>
          rw [hmid] at habove
          exact habove.ensureDir hname
        · next mid e hmid =>
          rw [hmid] at habove
          exact habove.longer [name]
      · exact hhere

/-- The directories that an operation at a path makes are on the way to it. -/
theorem above_paves {made : FileTree} {res : Except FileError Unit}
    (hplain : ∀ n ∈ path, Path.isPlain n = true)
    (hm : tree.makeDirs path.dropLast refusals = (made, res)) : Paves path.dropLast tree made := by
  have h : Paves path.dropLast tree (tree.makeDirs path.dropLast refusals).1 :=
    makeDirs_paves fun n hn => hplain n (List.dropLast_subset path hn)
  rwa [hm] at h

/-! ## The entry of a path -/

/-- But for directories on the way to a path, two trees differ at the given entry of the
path only, where `node` is afterwards. -/
structure Alters (path entry : Path) (node : Option Node) (old new : FileTree) : Prop where
  /-- The directories are made first. -/
  paved : ∃ made, Paves path.dropLast old made ∧ made.entryOf path = .ok entry ∧
    ∀ place, place ≠ entry → new.get? place = made.get? place
  /-- No directory was there. -/
  before : old.get? entry ≠ some .directory
  /-- What is there afterwards. -/
  here : new.get? entry = node

/-- What a tree holds as a file at the entry of a path is found at the path, also if the
entry is looked up after the directories above have been made. -/
theorem file?_of_entry {base entry : Path} {made : FileTree} {bytes : Bytes}
    (hclosed : tree.Closed) (hplain : ∀ n ∈ path, Path.isPlain n = true)
    (hpass : Guard.Allows tree base path)
    (hm : tree.makeDirs path.dropLast refusals = (made, .ok ()))
    (he : made.entryOf path = .ok entry) (hfile : tree.get? entry = some (.file bytes)) :
    tree.file? path = some bytes := by
  rcases above_cases hclosed hplain hpass hm with ⟨rfl, -⟩ | ⟨above, name, rfl, hthere, hmade⟩
  · obtain ⟨above, name, dir, rfl, -⟩ := entryOf_eq_ok.1 he
    exact file?_eq_some.2
      ⟨entry, canonical_of_entry (hplain name (by simp)) he hfile (by simp), hfile⟩
  · obtain ⟨-, -, -, -, hnone⟩ := hmade.entry hclosed (hplain name (by simp)) hthere he
    rw [hfile] at hnone
    cases hnone

end FileTree

namespace Session

variable {s : Session} {path : Path}

/-! ## Writing and removing -/

/-- A file that is written is at the entry of the path.  If the entry held the same bytes
before, they were found at the path. -/
theorem write_footprint (hreal : s.dryRun = false) (hclosed : s.tree.Closed)
    (hplain : ∀ n ∈ path, Path.isPlain n = true) (hpass : Guard.Allows s.tree s.base path)
    (bytes : Bytes) :
    (∃ entry, (s.write path bytes).2 = .ok () ∧
        Alters path entry (some (.file bytes)) s.tree (s.write path bytes).1.tree ∧
        (s.tree.get? entry = some (.file bytes) → s.tree.file? path = some bytes)) ∨
      ∃ e, (s.write path bytes).2 = .error e ∧
        Paves path.dropLast s.tree (s.write path bytes).1.tree := by
  obtain ⟨made, res, hm, ⟨entry, rfl, he, hd, hwrite⟩ | ⟨e, hwrite⟩⟩ :=
    write_cases hreal path bytes
  · have hne := (inDirectory_of_entryOf he).ne_nil
    have hpaves := above_paves hplain hm
    rw [hwrite]
    refine .inl ⟨entry, rfl, ⟨⟨made, hpaves, he, fun place hp => ?_⟩, ?_, ?_⟩, fun hfile => ?_⟩
    · exact get?_put_of_ne hne _ made hp
    · rw [← hpaves.get?_of_ne hd]
      exact hd
    · exact get?_put_self hne _ made
    · exact file?_of_entry hclosed hplain hpass hm he hfile
  · rw [hwrite]
    exact .inr ⟨e, rfl, above_paves hplain hm⟩

/-- A file or a link that is removed was at the entry of the path. -/
theorem remove_footprint (hreal : s.dryRun = false) (path : Path) :
    (∃ entry, (s.remove path).2 = .ok () ∧
        Alters path entry none s.tree (s.remove path).1.tree ∧ s.tree.get? entry ≠ none) ∨
      ∃ e, (s.remove path).2 = .error e ∧ (s.remove path).1.tree = s.tree := by
  rcases remove_cases hreal path with ⟨entry, node, he, hnode, hd, hremove⟩ | ⟨e, hremove⟩
  · have hne := (inDirectory_of_entryOf he).ne_nil
    rw [hremove]
    refine .inl ⟨entry, rfl, ⟨⟨s.tree, .refl _ _, he, fun place hp => ?_⟩, ?_, ?_⟩, ?_⟩
    · rw [get?_erase hne, if_neg hp]
    · rw [hnode]
      simpa using hd
    · rw [get?_erase hne, if_pos rfl]
    · rw [hnode]
      simp
  · rw [hremove]
    exact .inr ⟨e, rfl, rfl⟩

end Session

end Emend
