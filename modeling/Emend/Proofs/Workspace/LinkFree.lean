import Emend.Proofs.Workspace.Operations
/-!
# A base without links

If there is no link below the base, a path leads to itself or to nothing
(`canonical_eq`), so the guard lets every path pass that does not climb above the
base, whatever the tree holds (`resolve_eq`).  What is found at a path is then what
the tree holds there (`file?_eq`).
-/

namespace Emend

open FileTree

namespace Path

/-- Whether a part is a name that a file system takes. -/
def isProper (part : Text) : Bool := isName part && !hasNul part

theorem isProper_iff {part : Text} :
    isProper part = true ↔ isName part = true ∧ hasNul part = false := by
  simp [isProper]

theorem isPlain_of_isName {part : Text} (h : isName part = true) : isPlain part = true := by
  obtain ⟨hdot, hup, -⟩ := isName_iff.1 h
  exact isPlain_iff.2 ⟨hdot, hup⟩

end Path

namespace FileTree

/-- The bytes of the file that a tree holds at a path, links aside. -/
def fileAt (tree : FileTree) (path : Path) : Option Bytes :=
  match tree.get? path with
  | some (.file bytes) => some bytes
  | _ => none

theorem fileAt_eq_some {tree : FileTree} {path : Path} {bytes : Bytes} :
    tree.fileAt path = some bytes ↔ tree.get? path = some (.file bytes) := by
  unfold fileAt
  split <;> simp_all

/-- No link lies below a path. -/
def LinkFree (base : Path) (tree : FileTree) : Prop :=
  ∀ path, Path.Below base path → ∀ target, tree.get? path ≠ some (.link target)

/-- A tree is free of links if none of its entries is one. -/
theorem linkFree_of_entries {base : Path} {tree : FileTree}
    (h : ∀ e ∈ tree.entries, ∀ target, e.2 ≠ .link target) : LinkFree base tree := by
  intro path hbelow target hlink
  obtain ⟨e, he, hnode⟩ : ∃ e, tree.entries.find? (fun e => e.1 == path) = some e ∧
      e.2 = .link target := by
    simpa [get?, hbelow.ne_nil] using hlink
  exact h e (List.mem_of_find?_eq_some he) target hnode

theorem Tame.linkFree {base : Path} {old new : FileTree} (h : Tame old new)
    (hfree : LinkFree base old) : LinkFree base new :=
  fun path hbelow target hlink => hfree path hbelow target (h.links path target hlink)

/-- What is found straight below directories is a place. -/
theorem Closed.isPlace {tree : FileTree} (h : tree.Closed) {path : Path} {node : Node}
    (hnames : ∀ n ∈ path, Path.isName n = true) (hnode : tree.get? path = some node)
    (hlink : ∀ target, node ≠ .link target) : IsPlace tree path := by
  refine ⟨?_, node, hnode, hlink⟩
  clear hlink
  induction path using List.reverseRecOn generalizing node with
  | nil => exact .root
  | append_singleton dir name ih =>
      have hd := h dir name (by rw [hnode]; simp)
      exact .entry (ih (fun n hn => hnames n (List.mem_append_left _ hn)) hd) hd
        (hnames name (by simp))

end FileTree

/-! ## Paths from the base -/

/-- A path that starts with the base and has plain names only. -/
structure Path.IsFrom (base path : Path) : Prop where
  /-- It starts with the base. -/
  within : base <+: path
  /-- Its names are plain. -/
  plain : ∀ n ∈ path, Path.isPlain n = true

theorem Grounded.isFrom_of_resolve {tree : FileTree} {base path : Path} {written : Text}
    (h : Grounded tree base) (hr : Guard.resolve tree base written = .ok path) :
    Path.IsFrom base path := by
  obtain ⟨names, rfl, -, -⟩ := Guard.resolve_eq_ok hr
  exact ⟨List.prefix_append base names, (h.of_resolve hr).1⟩

theorem proper_of_canonical {tree : FileTree} {path : Path} (h : tree.canonical path = .ok path) :
    ∀ n ∈ path, Path.isProper n = true := by
  intro n hn
  obtain ⟨hnul, -⟩ := canonical_eq_ok.1 h
  refine Path.isProper_iff.2 ⟨(isPlace_of_canonical h).straight.names n hn, ?_⟩
  exact Bool.eq_false_iff.2 (List.any_eq_false.1 hnul n hn)

section LinkFree

variable {tree : FileTree} {base path : Path} (hg : Grounded tree base)
  (hfree : LinkFree base tree) (hpath : Path.IsFrom base path)

include hg hfree hpath

/-- A path from the base leads nowhere but to itself. -/
theorem canonical_eq {place : Path} (h : tree.canonical path = .ok place) : place = path := by
  obtain ⟨hin, hplain⟩ := hpath
  induction path using List.reverseRecOn generalizing place with
  | nil =>
      rw [canonical_nil] at h
      cases h
      rfl
  | append_singleton above name ih =>
      rcases List.prefix_concat_iff.1 hin with rfl | habove
      · rw [hg.leads] at h
        cases h
        rfl
      obtain ⟨entry, node, he, hnode, hlast⟩ := locate_concat_eq_ok (hplain name (by simp)) h
      obtain ⟨dir, -, hdir, -, -, rfl⟩ := entryOf_concat_eq_ok.1 he
      obtain rfl := ih hdir habove fun n hn => hplain n (List.mem_append_left _ hn)
      refine hlast fun target hlink => ?_
      exact hfree _ (Path.below_concat habove name) target (hlink ▸ hnode)

/-- The entry of a path from the base is the path itself. -/
theorem entryOf_eq {entry : Path} (h : tree.entryOf path = .ok entry) :
    entry = path ∧ ∀ n ∈ path, Path.isProper n = true := by
  obtain ⟨hin, hplain⟩ := hpath
  obtain ⟨above, name, dir, rfl, hnul, hdir, -, hlong, rfl⟩ := entryOf_eq_ok.1 h
  rw [List.any_append, Bool.or_eq_false_iff] at hnul
  have heq : dir = above := by
    rcases List.prefix_concat_iff.1 hin with rfl | habove
    · have hplace := (isPlace_of_canonical hg.leads).dropLast
      rw [List.dropLast_concat] at hplace
      rw [hplace.canonical hnul.1, Except.ok.injEq] at hdir
      exact hdir.symm
    · exact canonical_eq hg hfree
        ⟨habove, fun n hn => hplain n (List.mem_append_left _ hn)⟩ hdir
  subst heq
  refine ⟨rfl, fun n hn => ?_⟩
  rcases List.mem_append.1 hn with hn | hn
  · exact proper_of_canonical hdir n hn
  · rw [List.mem_singleton.1 hn]
    obtain ⟨hdot, hup⟩ := Path.isPlain_iff.1 (hplain name (by simp))
    exact Path.isProper_iff.2 ⟨Path.isName_iff.2 ⟨hdot, hup, hlong⟩, by simpa using hnul.2⟩

/-- A file is written at the path itself. -/
theorem writeEntry_eq {entry : Path} (h : tree.writeEntry path = .ok entry) :
    entry = path ∧ ∀ n ∈ path, Path.isProper n = true := by
  rcases writeEntry_eq_ok.1 h with ⟨hc, -⟩ | ⟨-, he, -⟩
  · obtain rfl := canonical_eq hg hfree hpath hc
    exact ⟨rfl, proper_of_canonical hc⟩
  · exact entryOf_eq hg hfree hpath he

/-- The guard lets every path from the base pass. -/
theorem allows_of_linkFree : Guard.Allows tree base path := by
  induction path using List.reverseRecOn with
  | nil => exact (Guard.allows_iff (canonical_nil tree)).2 hpath.within
  | append_singleton above name ih =>
      rcases List.prefix_concat_iff.1 hpath.within with rfl | habove
      · exact (Guard.allows_iff hg.leads).2 (List.prefix_refl _)
      cases hthere : tree.isThere (above ++ [name]) with
      | false =>
          rw [Guard.Allows, Guard.nearest_concat, hthere]
          exact ih ⟨habove, fun n hn => hpath.plain n (List.mem_append_left _ hn)⟩
      | true =>
          have hname := hpath.plain name (by simp)
          obtain ⟨entry, node, he, hnode⟩ := (isThere_iff hname).1 hthere
          obtain ⟨rfl, -⟩ := entryOf_eq hg hfree hpath he
          refine (Guard.allows_iff (canonical_of_entry hname he hnode fun target hlink => ?_)).2
            hpath.within
          exact hfree _ (Path.below_concat habove name) target (hlink ▸ hnode)

/-- What is found at a path from the base is what the tree holds there. -/
theorem file?_eq_some_iff {bytes : Bytes} : tree.file? path = some bytes ↔
    (∀ n ∈ path, Path.isProper n = true) ∧ tree.fileAt path = some bytes := by
  rw [file?_eq_some, fileAt_eq_some]
  constructor
  · rintro ⟨place, hplace, hnode⟩
    obtain rfl := canonical_eq hg hfree hpath hplace
    exact ⟨proper_of_canonical hplace, hnode⟩
  · rintro ⟨hproper, hnode⟩
    have hnames := fun n hn => (Path.isProper_iff.1 (hproper n hn)).1
    have hnul : path.any Path.hasNul = false :=
      List.any_eq_false.2 fun n hn => by simp [(Path.isProper_iff.1 (hproper n hn)).2]
    exact ⟨path, (hg.closed.isPlace hnames hnode (by simp)).canonical hnul, hnode⟩

end LinkFree

/-- Without links below the base, what a written path stands for does not depend on what
the tree holds. -/
theorem resolve_eq {tree other : FileTree} {base : Path} (hg : Grounded tree base)
    (hfree : LinkFree base tree) (hg' : Grounded other base) (hfree' : LinkFree base other)
    (written : Text) : Guard.resolve tree base written = Guard.resolve other base written := by
  unfold Guard.resolve
  split
  · rfl
  · cases hfold : Guard.fold [] (Path.parts written) with
    | none => rfl
    | some names =>
        have hpath : Path.IsFrom base (base ++ names) := by
          refine ⟨List.prefix_append base names, fun n hn => ?_⟩
          rcases List.mem_append.1 hn with hn | hn
          · exact Path.isPlain_of_isName (hg.names n hn)
          · exact Guard.fold_plain hfold (by simp) n hn
        simp only [Guard.check_eq_ok.2 (allows_of_linkFree hg hfree hpath),
          Guard.check_eq_ok.2 (allows_of_linkFree hg' hfree' hpath)]

end Emend
