import Emend.Proofs.Files.Growth
/-!
# Ways past an entry that is taken away

Where parts lead does not depend on how many links may still be followed
(`Leads.unique`), and a way can be cut at any part (`Leads.cut`).  A way ends when it has
come to a file (`Leads.of_file`).

So all ways through the entry of a path that leads to a file end at this file, and a path
that leads elsewhere does so after the entry has been taken away (`canonical_erase`).
-/

namespace Emend.FileTree

variable {tree : FileTree}

/-- The same parts lead to the same place, however many links may be followed. -/
theorem Leads.unique {n m n' m' : Nat} {dir place other : Path} {parts : List Text}
    (h : Leads tree n dir parts m place) (h' : Leads tree n' dir parts m' other) :
    place = other := by
  induction h generalizing n' with
  | here =>
      cases h'
      rfl
  | dot _ hp _ ih =>
      cases h' with
      | dot _ _ h' => exact ih h'
      | up _ hp' _ _ => simp [hp] at hp'
      | name _ hn _ _ _ => simp [(Path.isName_iff.1 hn).1] at hp
      | link _ hn _ _ => simp [(Path.isName_iff.1 hn).1] at hp
  | up _ hp hu _ ih =>
      cases h' with
      | dot _ hp' _ => simp [hp] at hp'
      | up _ _ _ h' => exact ih h'
      | name _ hn _ _ _ => simp [(Path.isName_iff.1 hn).2.1] at hu
      | link _ hn _ _ => simp [(Path.isName_iff.1 hn).2.1] at hu
  | name _ hn hnode hlink _ ih =>
      obtain ⟨hdot, hup, -⟩ := Path.isName_iff.1 hn
      cases h' with
      | dot _ hp _ => simp [hdot] at hp
      | up _ _ hu _ => simp [hup] at hu
      | name _ _ _ _ h' => exact ih h'
      | link _ _ hnode' _ => exact absurd (Option.some.inj (hnode.symm.trans hnode')) (hlink _)
  | link _ hn hnode _ ih =>
      obtain ⟨hdot, hup, -⟩ := Path.isName_iff.1 hn
      cases h' with
      | dot _ hp _ => simp [hdot] at hp
      | up _ _ hu _ => simp [hup] at hu
      | name _ _ hnode' hlink _ =>
          exact absurd (Option.some.inj (hnode'.symm.trans hnode)) (hlink _)
      | link _ _ hnode' h' =>
          rw [hnode, Option.some.injEq, Node.link.injEq] at hnode'
          subst hnode'
          exact ih h'

/-- A way along some parts and then others passes a place in between. -/
theorem Leads.cut {n m : Nat} {dir place : Path} {front back : List Text}
    (h : Leads tree n dir (front ++ back) m place) :
    ∃ k mid, Leads tree n dir front k mid ∧ Leads tree k mid back m place := by
  generalize hparts : front ++ back = parts at h
  induction h generalizing front with
  | here =>
      obtain ⟨rfl, rfl⟩ := List.append_eq_nil_iff.1 hparts
      exact ⟨_, _, .here, .here⟩
  | dot hd hp h ih =>
      rcases List.append_eq_cons_iff.1 hparts with ⟨rfl, rfl⟩ | ⟨front, rfl, hrest⟩
      · exact ⟨_, _, .here, .dot hd hp h⟩
      · obtain ⟨k, mid, hfront, hback⟩ := ih hrest.symm
        exact ⟨k, mid, .dot hd hp hfront, hback⟩
  | up hd hp hu h ih =>
      rcases List.append_eq_cons_iff.1 hparts with ⟨rfl, rfl⟩ | ⟨front, rfl, hrest⟩
      · exact ⟨_, _, .here, .up hd hp hu h⟩
      · obtain ⟨k, mid, hfront, hback⟩ := ih hrest.symm
        exact ⟨k, mid, .up hd hp hu hfront, hback⟩
  | name hd hn hnode hlink h ih =>
      rcases List.append_eq_cons_iff.1 hparts with ⟨rfl, rfl⟩ | ⟨front, rfl, hrest⟩
      · exact ⟨_, _, .here, .name hd hn hnode hlink h⟩
      · obtain ⟨k, mid, hfront, hback⟩ := ih hrest.symm
        exact ⟨k, mid, .name hd hn hnode hlink hfront, hback⟩
  | link hd hn hnode h ih =>
      rcases List.append_eq_cons_iff.1 hparts with ⟨rfl, rfl⟩ | ⟨front, rfl, rfl⟩
      · exact ⟨_, _, .here, .link hd hn hnode h⟩
      · obtain ⟨k, mid, hfront, hback⟩ := ih (List.append_assoc _ _ _)
        exact ⟨k, mid, .link hd hn hnode hfront, hback⟩

/-- From a file there is no way on. -/
theorem Leads.of_file {n m : Nat} {dir place : Path} {parts : List Text} {bytes : Bytes}
    (h : Leads tree n dir parts m place) (hfile : tree.get? dir = some (.file bytes)) :
    place = dir := by
  cases h with
  | here => rfl
  | dot hd _ _ | up hd _ _ _ | name hd _ _ _ _ | link hd _ _ _ =>
      rw [hfile] at hd
      cases hd

/-- The entry of a path that leads to a file is the file, or a link to it. -/
theorem entry_of_file {path file : Path} {bytes : Bytes}
    (hplain : ∀ n ∈ path, Path.isPlain n = true) (hfile : tree.canonical path = .ok file)
    (hbytes : tree.get? file = some (.file bytes)) :
    ∃ entry, tree.entryOf path = .ok entry ∧
      (entry = file ∨ ∃ target, tree.get? entry = some (.link target)) := by
  rcases List.eq_nil_or_concat path with rfl | ⟨above, name, rfl⟩
  · obtain ⟨-, m, h⟩ := canonical_eq_ok.1 hfile
    cases h
    rw [get?_nil] at hbytes
    cases hbytes
  rw [List.concat_eq_append] at hplain hfile ⊢
  obtain ⟨entry, node, he, hnode, hlast⟩ := locate_concat_eq_ok (hplain name (by simp)) hfile
  refine ⟨entry, he, ?_⟩
  by_cases hlink : ∃ target, node = .link target
  · obtain ⟨target, rfl⟩ := hlink
    exact .inr ⟨target, hnode⟩
  · rw [not_exists] at hlink
    exact .inl (hlast hlink).symm

section Erased

variable {source file entry : Path} (hplain : ∀ n ∈ source, Path.isPlain n = true)
  (hfile : tree.canonical source = .ok file) (he : tree.entryOf source = .ok entry)

include hplain hfile he

/-- Where a link that is the entry of the path leads. -/
theorem link_leads {dir : Path} {part target : Text} (hentry : entry = dir ++ [part])
    (hlink : tree.get? entry = some (.link target)) :
    ∃ n m, Leads tree n (if Path.isAbsolute target then [] else dir) (Path.parts target) m
      file := by
  obtain ⟨above, name, dir', rfl, hnul, hdir, hd, hl, rfl⟩ := entryOf_eq_ok.1 he
  obtain ⟨rfl, hpart⟩ := List.append_inj' hentry rfl
  cases hpart
  obtain ⟨m, hm⟩ := locate_concat true hnul hdir
  rw [canonical, hm] at hfile
  obtain ⟨k, hleads⟩ := walk_eq_ok.1 hfile
  obtain ⟨hdot, hup⟩ := Path.isPlain_iff.1 (hplain part (by simp))
  cases hleads with
  | dot _ hp _ => simp [hdot] at hp
  | up _ _ hu _ => simp [hup] at hu
  | name _ _ hnode hno _ => exact absurd (Option.some.inj (hnode.symm.trans hlink)) (hno _)
  | link _ _ hnode h =>
      rw [hlink, Option.some.injEq, Node.link.injEq] at hnode
      subst hnode
      rw [List.append_nil] at h
      exact ⟨_, k, h⟩

variable {bytes : Bytes} (hbytes : tree.get? file = some (.file bytes))

include hbytes

/-- The entry of a path that leads to a file is no directory. -/
theorem entry_ne_directory : ∃ node, tree.get? entry = some node ∧ node ≠ .directory := by
  obtain ⟨found, hfound, hcase⟩ := entry_of_file hplain hfile hbytes
  rw [he, Except.ok.injEq] at hfound
  subst hfound
  rcases hcase with rfl | ⟨target, htarget⟩
  · exact ⟨_, hbytes, by simp⟩
  · exact ⟨_, htarget, by simp⟩

theorem Leads.erase {n m : Nat} {dir place : Path} {parts : List Text}
    (h : Leads tree n dir parts m place) (hne : place ≠ file) :
    Leads (tree.erase entry) n dir parts m place := by
  obtain ⟨node, hnode, hnd⟩ := entry_ne_directory hplain hfile he hbytes
  have hroot := (inDirectory_of_entryOf he).ne_nil
  have hkept : ∀ {path : Path}, path ≠ entry → (tree.erase entry).get? path = tree.get? path := by
    intro path hpath
    rw [get?_erase hroot, if_neg hpath]
  have hdirectory : ∀ {path : Path}, tree.get? path = some .directory →
      (tree.erase entry).get? path = some .directory := by
    intro path hd
    rw [hkept, hd]
    rintro rfl
    exact hnd (Option.some.inj (hnode.symm.trans hd))
  induction h with
  | here => exact .here
  | dot hd hp _ ih => exact .dot (hdirectory hd) hp (ih hne)
  | up hd hp hu _ ih => exact .up (hdirectory hd) hp hu (ih hne)
  | @name _ _ dir _ part _ found hd hn hfound hlink h ih =>
      refine .name (hdirectory hd) hn (hkept ?_ ▸ hfound) hlink (ih hne)
      -- A way through the entry would end at the file.
      intro heq
      rw [heq] at hfound h
      obtain ⟨other, hother, hcase⟩ := entry_of_file hplain hfile hbytes
      rw [he, Except.ok.injEq] at hother
      subst hother
      rcases hcase with rfl | ⟨target, htarget⟩
      · exact hne (h.of_file hbytes)
      · exact hlink target (Option.some.inj (hfound.symm.trans htarget))
  | @link _ _ dir _ part _ target hd hn hfound h ih =>
      refine .link (hdirectory hd) hn (hkept ?_ ▸ hfound) (ih hne)
      intro heq
      rw [heq] at hfound
      obtain ⟨_, _, hleads⟩ := link_leads hplain hfile he heq.symm hfound
      obtain ⟨k, mid, hfront, hback⟩ := h.cut
      obtain rfl := hfront.unique hleads
      exact hne (hback.of_file hbytes)

/-- A path that does not lead to the file leads where it led, after the entry of a path to
the file has been taken away. -/
theorem canonical_erase {path place : Path} (h : tree.canonical path = .ok place)
    (hne : place ≠ file) : (tree.erase entry).canonical path = .ok place := by
  obtain ⟨hnul, m, hleads⟩ := canonical_eq_ok.1 h
  exact canonical_eq_ok.2 ⟨hnul, m, hleads.erase hplain hfile he hbytes hne⟩

end Erased

/-- What a path leads to after something has been taken away, it led to before. -/
theorem canonical_of_erase {entry path place : Path} (hroot : entry ≠ [])
    (h : (tree.erase entry).canonical path = .ok place) : tree.canonical path = .ok place := by
  refine canonical_keeps (fun other node hnode => .inl ?_) h
  rw [get?_erase hroot] at hnode
  split at hnode
  · cases hnode
  · exact hnode

end Emend.FileTree
