import Emend.Proofs.Files.Entry
/-!
# How file trees change

A change acts on one entry, and what it needs of this entry and leaves there is
read off here once: `makeDir_eq_ok`, `replaceFile_eq_ok`, `remove_eq_ok` and
`copyFile_eq_ok`.

Three relations are kept by these changes.

* `Closed`: every entry is in a directory.
* `Keeps`: what walks go by is still there, so a path leads where it led
  (`canonical_keeps`).
* `Grows`: all that is new are directories below some path.
-/

namespace Emend

namespace Path

/-- The second path lies below the first one. -/
def Below (root path : Path) : Prop := root <+: path ∧ root ≠ path

theorem below_concat {root dir : Path} (h : root <+: dir) (name : Text) :
    Below root (dir ++ [name]) := by
  refine ⟨h.trans (List.prefix_append dir [name]), fun heq => ?_⟩
  have hle := h.length_le
  rw [heq, List.length_append, List.length_singleton] at hle
  omega

theorem Below.ne_nil {root path : Path} (h : Below root path) : path ≠ [] := by
  rintro rfl
  exact h.2 (List.prefix_nil.1 h.1)

/-- What lies below a path is in a directory inside it. -/
theorem Below.dropLast {root path : Path} (h : Below root path) : root <+: path.dropLast := by
  rcases List.eq_nil_or_concat path with rfl | ⟨dir, name, rfl⟩
  · exact h.1
  · rw [List.concat_eq_append, List.dropLast_concat]
    rcases List.prefix_concat_iff.1 (List.concat_eq_append ▸ h.1) with heq | hp
    · exact absurd (heq.trans List.concat_eq_append.symm) h.2
    · exact hp

theorem isWithin_iff {root path : Path} : isWithin root path = true ↔ root <+: path :=
  List.isPrefixOf_iff_prefix

end Path

namespace FileTree

variable {tree old new : FileTree}

/-! ## What each change needs and leaves -/

theorem get?_put_self {path : Path} (h : path ≠ []) (node : Node) (tree : FileTree) :
    (tree.put path node).get? path = some node := by
  rw [get?_put h, if_pos rfl]

theorem get?_put_of_ne {path other : Path} (h : path ≠ []) (node : Node) (tree : FileTree)
    (hne : other ≠ path) : (tree.put path node).get? other = tree.get? other := by
  rw [get?_put h, if_neg hne]

/-- What is refused is not made. -/
theorem makeDir_eq_ok {path : Path} {refusals : Refusals} :
    tree.makeDir path refusals = .ok new ↔
      ∃ entry, tree.entryOf path = .ok entry ∧ tree.get? entry = none ∧
        refusals.makeDir tree path = none ∧ new = tree.put entry .directory := by
  cases h : tree.entryOf path with
  | error e => simp [makeDir, h, bind, Except.bind]
  | ok entry =>
      cases hnode : tree.get? entry with
      | none =>
          cases hrefusal : refusals.makeDir tree path <;>
            simp [makeDir, h, hnode, hrefusal, bind, Except.bind, pure, Except.pure, throw,
              throwThe, MonadExceptOf.throw, eq_comm]
      | some node =>
          simp [makeDir, h, hnode, bind, Except.bind, throw, throwThe, MonadExceptOf.throw]

theorem replaceFile_eq_ok {path : Path} {bytes : Bytes} :
    tree.replaceFile path bytes = .ok new ↔
      ∃ entry, tree.entryOf path = .ok entry ∧ tree.get? entry ≠ some .directory ∧
        new = tree.put entry (.file bytes) := by
  cases h : tree.entryOf path with
  | error e =>
      unfold replaceFile
      simp only [h, bind, Except.bind, throw, throwThe, MonadExceptOf.throw]
      split <;> simp
      split <;> simp
  | ok entry =>
      obtain ⟨above, name, dir, rfl, hnul, -⟩ := entryOf_eq_ok.1 h
      by_cases hnode : tree.get? entry = some .directory
      · simp [replaceFile, hnul, h, hnode, bind, Except.bind, throw, throwThe,
          MonadExceptOf.throw]
      · simp [replaceFile, hnul, h, hnode, bind, Except.bind, pure, Except.pure]
        exact eq_comm

theorem remove_eq_ok {path : Path} : tree.remove path = .ok new ↔
    ∃ entry node, tree.entryOf path = .ok entry ∧ tree.get? entry = some node ∧
      node ≠ .directory ∧ new = tree.erase entry := by
  cases h : tree.entryOf path with
  | error e => simp [remove, h, bind, Except.bind]
  | ok entry =>
      cases hnode : tree.get? entry with
      | none =>
          simp [remove, h, hnode, bind, Except.bind, throw, throwThe, MonadExceptOf.throw]
      | some node =>
          cases node <;>
            simp [remove, h, hnode, bind, Except.bind, pure, Except.pure, throw, throwThe,
              MonadExceptOf.throw, eq_comm]

/-- A file is written where a path leads, or at its entry if nothing is there. -/
theorem writeEntry_eq_ok {path entry : Path} : tree.writeEntry path = .ok entry ↔
    (tree.canonical path = .ok entry ∧ tree.get? entry ≠ some .directory) ∨
      (tree.canonical path = .error .notFound ∧ tree.entryOf path = .ok entry ∧
        tree.get? entry = none) := by
  unfold writeEntry
  cases hc : tree.canonical path with
  | ok place =>
      by_cases hd : tree.get? place = some .directory
      · simp only [hd, if_pos, reduceCtorEq, false_and, or_false, Except.ok.injEq, false_iff]
        rintro ⟨rfl, hne⟩
        exact hne hd
      · simp only [hd, if_false, reduceCtorEq, false_and, or_false, Except.ok.injEq]
        constructor
        · rintro rfl
          exact ⟨rfl, hd⟩
        · exact And.left
  | error e =>
      cases e with
      | notFound =>
          cases h : tree.entryOf path with
          | error e => simp [bind, Except.bind]
          | ok place =>
              cases hnode : tree.get? place with
              | none =>
                  simp only [bind, Except.bind, hnode, Option.isSome_none, Bool.false_eq_true,
                    if_false, pure, Except.pure, Except.ok.injEq, reduceCtorEq, false_and,
                    true_and, false_or]
                  constructor
                  · rintro rfl
                    exact ⟨rfl, hnode⟩
                  · exact And.left
              | some node =>
                  simp only [bind, Except.bind, hnode, Option.isSome_some, if_true, throw,
                    throwThe, MonadExceptOf.throw, reduceCtorEq, false_and, true_and, false_or,
                    Except.ok.injEq, false_iff]
                  rintro ⟨rfl, hnone⟩
                  rw [hnode] at hnone
                  cases hnone
      | alreadyExists | notDirectory | isDirectory | invalidArgument | nameTooLong
      | tooManyLinks | nulInPath | noParent | other => simp

theorem put_put (path : Path) (first second : Node) (tree : FileTree) :
    (tree.put path first).put path second = tree.put path second := by
  simp [put, erase]

/-- What is copied is read after the file that is written has been emptied. -/
theorem copyFile_eq_ok {source destination : Path} {keep : Bytes → Bytes} :
    tree.copyFile keep source destination = .ok new ↔
      ∃ before entry bytes, tree.read source = .ok before ∧
        tree.writeEntry destination = .ok entry ∧
        (tree.put entry (.file [])).read source = .ok bytes ∧
        new = tree.put entry (.file (keep bytes)) := by
  unfold copyFile
  cases hr : tree.read source with
  | error e => simp [bind, Except.bind]
  | ok before =>
  cases hw : tree.writeEntry destination with
  | error e => simp [bind, Except.bind]
  | ok entry =>
  cases hb : (tree.put entry (.file [])).read source with
  | error e => simp [bind, Except.bind, hb]
  | ok bytes => simp [bind, Except.bind, hb, pure, Except.pure, put_put, eq_comm]

/-! ## Closed trees -/

/-- Every entry is in a directory. -/
def Closed (tree : FileTree) : Prop :=
  ∀ dir name, tree.get? (dir ++ [name]) ≠ none → tree.get? dir = some .directory

/-- A path is a name in a directory. -/
def InDirectory (tree : FileTree) (path : Path) : Prop :=
  ∃ dir name, path = dir ++ [name] ∧ tree.get? dir = some .directory

theorem InDirectory.ne_nil {path : Path} (h : InDirectory tree path) : path ≠ [] := by
  obtain ⟨dir, name, rfl, -⟩ := h
  simp

theorem inDirectory_of_entryOf {path entry : Path} (h : tree.entryOf path = .ok entry) :
    InDirectory tree entry := by
  obtain ⟨_, name, dir, _, _, _, hd, _, rfl⟩ := entryOf_eq_ok.1 h
  exact ⟨dir, name, rfl, hd⟩

theorem inDirectory_of_writeEntry {path entry : Path} (h : tree.writeEntry path = .ok entry) :
    InDirectory tree entry := by
  rcases writeEntry_eq_ok.1 h with ⟨hc, hnd⟩ | ⟨-, he, -⟩
  · have hs := (isPlace_of_canonical hc).straight
    cases hs with
    | root => exact absurd (get?_nil tree) hnd
    | entry _ hd _ => exact ⟨_, _, rfl, hd⟩
  · exact inDirectory_of_entryOf he

/-- Something may be put into a directory, unless another directory is there. -/
theorem Closed.put (h : tree.Closed) {path : Path} {node : Node} (hin : InDirectory tree path)
    (hnode : tree.get? path ≠ some .directory ∨ node = .directory) :
    (tree.put path node).Closed := by
  have hne := hin.ne_nil
  intro above last hthere
  by_cases heq : above ++ [last] = path
  · obtain ⟨dir, name, rfl, hd⟩ := hin
    obtain ⟨rfl, -⟩ := List.append_inj' heq rfl
    rw [get?_put_of_ne hne node tree (by simp), hd]
  · rw [get?_put_of_ne hne node tree heq] at hthere
    have habove := h above last hthere
    by_cases hself : above = path
    · subst hself
      rcases hnode with hnode | rfl
      · exact absurd habove hnode
      · exact get?_put_self hne _ tree
    · rw [get?_put_of_ne hne node tree hself, habove]

/-- What is no directory may be taken away. -/
theorem Closed.erase (h : tree.Closed) {path : Path} (hne : path ≠ [])
    (hnode : tree.get? path ≠ some .directory) : (tree.erase path).Closed := by
  intro above last hthere
  have hkept : tree.get? (above ++ [last]) ≠ none := by
    intro hnone
    rw [get?_erase hne] at hthere
    split at hthere
    · exact hthere rfl
    · exact hthere hnone
  have habove := h above last hkept
  rw [get?_erase hne, if_neg]
  · exact habove
  · rintro rfl
    exact hnode habove

/-- A tree is closed if each of its entries is. -/
theorem closed_of_entries (h : ∀ e ∈ tree.entries, tree.get? e.1.dropLast = some .directory) :
    tree.Closed := by
  intro dir name hthere
  obtain ⟨node, hnode⟩ := Option.ne_none_iff_exists'.1 hthere
  obtain ⟨e, he, -⟩ : ∃ e, tree.entries.find? (fun e => e.1 == dir ++ [name]) = some e ∧
      e.2 = node := by
    simpa [get?] using hnode
  have hpath := List.find?_some he
  have hd := h e (List.mem_of_find?_eq_some he)
  rwa [beq_iff_eq.1 hpath, List.dropLast_concat] at hd

/-! ## Kept ways -/

/-- Each directory and each link of one tree is in the other, and each file is some
file there. -/
def Keeps (old new : FileTree) : Prop :=
  ∀ path node, old.get? path = some node →
    new.get? path = some node ∨ ∃ before after, node = .file before ∧
      new.get? path = some (.file after)

theorem Keeps.refl (tree : FileTree) : Keeps tree tree := fun _ _ h => .inl h

theorem Keeps.trans {mid : FileTree} (h₁ : Keeps old mid) (h₂ : Keeps mid new) :
    Keeps old new := by
  intro path node hnode
  rcases h₁ path node hnode with h | ⟨b, c, rfl, h⟩
  · exact h₂ path node h
  · rcases h₂ path _ h with h | ⟨_, d, _, h⟩
    · exact .inr ⟨b, c, rfl, h⟩
    · exact .inr ⟨b, d, rfl, h⟩

theorem Keeps.directory (h : Keeps old new) {path : Path}
    (hd : old.get? path = some .directory) : new.get? path = some .directory := by
  rcases h path _ hd with h | ⟨_, _, hfile, _⟩
  · exact h
  · cases hfile

theorem Keeps.link (h : Keeps old new) {path : Path} {target : Text}
    (hl : old.get? path = some (.link target)) : new.get? path = some (.link target) := by
  rcases h path _ hl with h | ⟨_, _, hfile, _⟩
  · exact h
  · cases hfile

/-- A file may take the place of a file or of nothing. -/
theorem Keeps.put_file (tree : FileTree) {path : Path} (hne : path ≠ []) (bytes : Bytes)
    (hnode : ∀ node, tree.get? path = some node → ∃ before, node = .file before) :
    Keeps tree (tree.put path (.file bytes)) := by
  intro other node h
  by_cases heq : other = path
  · subst heq
    obtain ⟨before, rfl⟩ := hnode node h
    exact .inr ⟨before, bytes, rfl, get?_put_self hne _ tree⟩
  · exact .inl (by rw [get?_put_of_ne hne _ tree heq, h])

theorem Leads.keeps (hk : Keeps old new) {n m : Nat} {dir place : Path} {parts : List Text}
    (h : Leads old n dir parts m place) : Leads new n dir parts m place := by
  induction h with
  | here => exact .here
  | dot hd hp _ ih => exact .dot (hk.directory hd) hp ih
  | up hd hp hu _ ih => exact .up (hk.directory hd) hp hu ih
  | name hd hn hnode hlink _ ih =>
      rcases hk _ _ hnode with h | ⟨_, _, _, h⟩
      · exact .name (hk.directory hd) hn h hlink ih
      · exact .name (hk.directory hd) hn h (by simp) ih
  | link hd hn hnode _ ih => exact .link (hk.directory hd) hn (hk.link hnode) ih

/-- A path leads where it led. -/
theorem canonical_keeps (hk : Keeps old new) {path place : Path}
    (h : old.canonical path = .ok place) : new.canonical path = .ok place := by
  obtain ⟨hnul, m, hs⟩ := canonical_eq_ok.1 h
  exact canonical_eq_ok.2 ⟨hnul, m, hs.keeps hk⟩

theorem entryOf_keeps (hk : Keeps old new) {path entry : Path}
    (h : old.entryOf path = .ok entry) : new.entryOf path = .ok entry := by
  obtain ⟨above, name, dir, hp, hnul, hdir, hd, hl, he⟩ := entryOf_eq_ok.1 h
  exact entryOf_eq_ok.2
    ⟨above, name, dir, hp, hnul, canonical_keeps hk hdir, hk.directory hd, hl, he⟩

/-! ## Growth by directories -/

/-- One tree is the other with more directories, all of them below a path. -/
def Grows (root : Path) (old new : FileTree) : Prop :=
  ∀ path, new.get? path = old.get? path ∨
    (old.get? path = none ∧ new.get? path = some .directory ∧ Path.Below root path)

theorem Grows.refl (root : Path) (tree : FileTree) : Grows root tree tree := fun _ => .inl rfl

theorem Grows.trans {root : Path} {mid : FileTree} (h₁ : Grows root old mid)
    (h₂ : Grows root mid new) : Grows root old new := by
  intro path
  rcases h₁ path with h | ⟨hnone, hd, hb⟩
  · rcases h₂ path with h' | ⟨hnone, hd, hb⟩
    · exact .inl (h'.trans h)
    · exact .inr ⟨by rw [← h, hnone], hd, hb⟩
  · rcases h₂ path with h' | ⟨hnone', _, _⟩
    · exact .inr ⟨hnone, by rw [h', hd], hb⟩
    · rw [hd] at hnone'; cases hnone'

theorem Grows.keeps {root : Path} (h : Grows root old new) : Keeps old new := by
  intro path node hnode
  rcases h path with hsame | ⟨hnone, _, _⟩
  · exact .inl (by rw [hsame, hnode])
  · rw [hnode] at hnone; cases hnone

/-- What is no directory is not new. -/
theorem Grows.get?_of_ne {root path : Path} (h : Grows root old new)
    (hne : new.get? path ≠ some .directory) : new.get? path = old.get? path := by
  rcases h path with hsame | ⟨_, hd, _⟩
  · exact hsame
  · exact absurd hd hne

/-- Nothing changes that is not below the path. -/
theorem Grows.outside {root path : Path} (h : Grows root old new) (hb : ¬ Path.Below root path) :
    new.get? path = old.get? path := by
  rcases h path with hsame | ⟨_, _, hbelow⟩
  · exact hsame
  · exact absurd hbelow hb

theorem Grows.put_directory {root path : Path} (tree : FileTree) (hb : Path.Below root path)
    (hnone : tree.get? path = none) : Grows root tree (tree.put path .directory) := by
  intro other
  by_cases heq : other = path
  · subst heq
    exact .inr ⟨hnone, get?_put_self hb.ne_nil _ tree, hb⟩
  · exact .inl (get?_put_of_ne hb.ne_nil _ tree heq)

end FileTree

end Emend
