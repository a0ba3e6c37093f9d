import Emend.Proofs.Workspace.Confinement
import Emend.Proofs.Workspace.Transfer
/-!
# What is found at a path after an operation

With links around, an operation may change where paths lead, that of the operation itself
included: a file that is put in the place of a link to a directory cuts all ways through this
link.  No way through the entry of a path that leads to a file goes on to a directory, so an
operation at such a path leaves the entries of all paths where they are (`entryOf_past`).

So afterwards the path of the operation is one that the guard lets pass, and a file that has
been written, removed or moved is found there with what it should hold, unless the path
strays (`write_lands`, `remove_lands`, `move_lands`).
-/

namespace Emend

open FileTree

namespace FileTree

variable {tree new : FileTree} {path source entry file place : Path} {bytes : Bytes}
  {refusals : Refusals}

/-! ## Past an entry -/

/-- All but one entry is kept by whatever is put there. -/
theorem keeps_put_erase (hne : entry ≠ []) (node : Node) (tree : FileTree) :
    Keeps (tree.erase entry) (tree.put entry node) := by
  intro other found hfound
  rw [get?_erase hne] at hfound
  split at hfound
  · cases hfound
  · next hother => exact .inl ((get?_put_of_ne hne node tree hother).trans hfound)

section Past

variable (hplain : ∀ n ∈ source, Path.isPlain n = true)
  (hfile : tree.canonical source = .ok file) (he : tree.entryOf source = .ok entry)
  (hbytes : tree.get? file = some (.file bytes)) (hkeeps : Keeps (tree.erase entry) new)

include hplain hfile he hbytes hkeeps

/-- A path that does not lead to a file leads where it led, whatever has become of the entry
of a path to the file. -/
theorem canonical_past (h : tree.canonical path = .ok place) (hne : place ≠ file) :
    new.canonical path = .ok place :=
  canonical_keeps hkeeps (canonical_erase hplain hfile he hbytes h hne)

/-- The entries of paths are where they were, whatever has become of the entry of a path to
a file. -/
theorem entryOf_past {other : Path} (h : tree.entryOf path = .ok other) :
    new.entryOf path = .ok other := by
  obtain ⟨above, name, dir, hp, hnul, hdir, hd, hl, rfl⟩ := entryOf_eq_ok.1 h
  obtain ⟨node, hnode, hnd⟩ := entry_ne_directory hplain hfile he hbytes
  have hne : dir ≠ file := by
    rintro rfl
    rw [hbytes] at hd
    cases hd
  have hentry : dir ≠ entry := by
    rintro rfl
    exact hnd (Option.some.inj (hnode.symm.trans hd))
  have hkept : new.get? dir = some .directory := by
    refine hkeeps.directory ?_
    rw [get?_erase (inDirectory_of_entryOf he).ne_nil, if_neg hentry, hd]
  exact entryOf_eq_ok.2 ⟨above, name, dir, hp, hnul,
    canonical_past hplain hfile he hbytes hkeeps hdir hne, hkept, hl, rfl⟩

end Past

/-! ## A path at which there is nothing -/

section Missing

variable {base : Path} (hplain : ∀ n ∈ path, Path.isPlain n = true)
  (he : tree.entryOf path = .ok entry) (hnone : tree.get? entry = none)

include hplain he hnone

theorem isThere_of_missing : tree.isThere path = false := by
  obtain ⟨above, name, dir, rfl, -⟩ := entryOf_eq_ok.1 he
  by_contra hthere
  obtain ⟨found, node, hfound, hnode⟩ :=
    (isThere_iff (hplain name (by simp))).1 (by simpa using hthere)
  rw [he, Except.ok.injEq] at hfound
  rw [← hfound, hnone] at hnode
  cases hnode

theorem file?_of_missing : tree.file? path = none := by
  by_contra hsome
  obtain ⟨bytes, hbytes⟩ := Option.ne_none_iff_exists'.1 hsome
  obtain ⟨place, hplace, -⟩ := file?_eq_some.1 hbytes
  have hthere := isThere_of_missing hplain he hnone
  rw [isThere_of_canonical hplace] at hthere
  cases hthere

/-- The guard lets a path pass at which there is nothing, if its entry is below the base. -/
theorem allows_of_missing (hbelow : Path.Below base entry) : Guard.Allows tree base path := by
  have hthere := isThere_of_missing hplain he hnone
  obtain ⟨above, name, dir, rfl, -, hdir, -, -, rfl⟩ := entryOf_eq_ok.1 he
  have habove : Guard.Allows tree base above := (Guard.allows_iff hdir).2 (by
    simpa using hbelow.dropLast)
  rw [Guard.Allows, Guard.nearest_concat, hthere, if_neg Bool.false_ne_true]
  exact habove

end Missing

/-- What a path leads to is a file if it is no directory. -/
theorem file_of_canonical (h : tree.canonical path = .ok place)
    (hdirectory : tree.isDirectory path = false) :
    ∃ bytes, tree.get? place = some (.file bytes) := by
  obtain ⟨node, hnode, hlink⟩ := (isPlace_of_canonical h).found
  cases node with
  | file bytes => exact ⟨bytes, hnode⟩
  | directory =>
      rw [isDirectory_iff.2 ⟨place, h, hnode⟩] at hdirectory
      cases hdirectory
  | link target => exact absurd rfl (hlink target)

/-- A file at the entry of a path is found at the path, and the guard lets the path pass. -/
theorem lands_of_entry {base : Path} (hplain : ∀ n ∈ path, Path.isPlain n = true)
    (he : tree.entryOf path = .ok entry) (hfile : tree.get? entry = some (.file bytes))
    (hbelow : Path.Below base entry) :
    tree.file? path = some bytes ∧ Guard.Allows tree base path := by
  obtain ⟨above, name, dir, rfl, -⟩ := entryOf_eq_ok.1 he
  have hleads := canonical_of_entry (hplain name (by simp)) he hfile (by simp)
  exact ⟨file?_eq_some.2 ⟨entry, hleads, hfile⟩, (Guard.allows_iff hleads).2 hbelow.1⟩

/-- A copy does not go to a file to which its path does not lead. -/
theorem target_ne_of_apart {target : Path} {made : FileTree} {base : Path} (hclosed : tree.Closed)
    (hplain : ∀ n ∈ path, Path.isPlain n = true) (hpass : Guard.Allows tree base path)
    (hm : tree.makeDirs path.dropLast refusals = (made, .ok ()))
    (hw : made.writeEntry path = .ok target) (hheld : made.get? file = some (.file bytes))
    (hapart : tree.canonical path ≠ .ok file) :
    target ≠ file := by
  rintro rfl
  rcases writeEntry_eq_ok.1 hw with ⟨hleads, -⟩ | ⟨-, -, hnone⟩
  · rcases above_cases hclosed hplain hpass hm with ⟨rfl, -⟩ | ⟨above, name, rfl, hthere, hmade⟩
    · exact hapart hleads
    · rw [(hmade.directory hclosed (hplain name (by simp)) hthere hleads).2] at hheld
      cases hheld
  · rw [hnone] at hheld
    cases hheld

/-- After a move to another file, the entries of both paths are where they were, and the
destination leads to the copy. -/
theorem Moves.lands {destination origin target : Path} {old made : FileTree} {base : Path}
    (h : Moves source destination origin file entry target bytes old made new)
    (hg : Grounded old base) (hplain : ∀ n ∈ destination, Path.isPlain n = true)
    (hpass : Guard.Allows old base destination)
    (hm : old.makeDirs destination.dropLast refusals = (made, .ok ()))
    (hw : made.writeEntry destination = .ok target)
    (hsource : ∀ n ∈ source, Path.isPlain n = true) (hne : target ≠ file) :
    new.entryOf source = .ok origin ∧ Guard.Allows new base destination := by
  obtain ⟨hbelow, hfiles⟩ := writeEntry_cases hg.closed hplain hpass hm hg.directory hw
  obtain ⟨hgrows, -⟩ := grows_of_makeDirs hg.closed hplain hpass hm
  have hleads := canonical_keeps hgrows.keeps h.leads
  have horigin := entryOf_keeps hgrows.keeps h.origin_eq
  have hheld : made.get? file = some (.file bytes) := (h.paved.get?_iff (by simp) file).2 h.held
  have hroot := (inDirectory_of_entryOf horigin).ne_nil
  have hkeeps : Keeps (made.erase origin) new := by
    intro other node hnode
    rw [get?_erase hroot] at hnode
    split at hnode
    · cases hnode
    next hother =>
    by_cases htarget : other = target
    · subst htarget
      obtain ⟨before, rfl⟩ := hfiles node hnode
      exact .inr ⟨before, bytes, rfl, (h.arrives hne).1⟩
    · exact .inl ((h.frame other hother htarget).trans hnode)
  refine ⟨entryOf_past hsource hleads horigin hheld hkeeps horigin, ?_⟩
  rcases h.target_cases with rfl | ⟨-, hdest⟩
  · have hentry := entryOf_past hsource hleads horigin hheld hkeeps h.entry_eq
    exact (lands_of_entry hplain hentry (h.arrives hne).1 hbelow).2
  · have hdest' := canonical_past hsource hleads horigin hheld hkeeps
      (canonical_keeps hgrows.keeps hdest) hne
    exact (Guard.allows_iff hdest').2 hbelow.1

/-! ## Other paths to a file -/

/-- A path to a file leads nowhere when the file is taken away. -/
theorem file?_of_erase (hroot : file ≠ []) (h : tree.canonical path = .ok file) :
    (tree.erase file).file? path = none := by
  by_contra hsome
  obtain ⟨bytes, hbytes⟩ := Option.ne_none_iff_exists'.1 hsome
  obtain ⟨place, hplace, hheld⟩ := file?_eq_some.1 hbytes
  have hback := canonical_of_erase hroot hplace
  rw [h, Except.ok.injEq] at hback
  rw [← hback, get?_erase hroot, if_pos rfl] at hheld
  cases hheld

/-- A path to a file leads nowhere when the file is moved to another one by a path that ends
at the file. -/
theorem Moves.file?_other {destination target : Path} {old made : FileTree} {base other : Path}
    (h : Moves source destination file file entry target bytes old made new)
    (hg : Grounded old base) (hplain : ∀ n ∈ destination, Path.isPlain n = true)
    (hpass : Guard.Allows old base destination)
    (hm : old.makeDirs destination.dropLast refusals = (made, .ok ()))
    (hw : made.writeEntry destination = .ok target) (hne : target ≠ file)
    (hother : old.canonical other = .ok file) : new.file? other = none := by
  obtain ⟨hbelow, hfiles⟩ := writeEntry_cases hg.closed hplain hpass hm hg.directory hw
  obtain ⟨hgrows, -⟩ := grows_of_makeDirs hg.closed hplain hpass hm
  have hkeeps : Keeps made (made.put target (.file bytes)) :=
    .put_file made hbelow.ne_nil bytes hfiles
  -- All that is left was there when the bytes had been copied.
  have hback : Keeps new (made.put target (.file bytes)) := by
    intro place node hnode
    rw [get?_put hbelow.ne_nil]
    split
    · next htarget =>
      rw [htarget, (h.arrives hne).1] at hnode
      exact .inl hnode
    · next htarget =>
      have horigin : place ≠ file := by
        rintro rfl
        rw [h.gone] at hnode
        cases hnode
      exact .inl ((h.frame place horigin htarget).symm.trans hnode)
  by_contra hsome
  obtain ⟨content, hcontent⟩ := Option.ne_none_iff_exists'.1 hsome
  obtain ⟨place, hplace, hheld⟩ := file?_eq_some.1 hcontent
  have hsame := canonical_keeps hback hplace
  rw [canonical_keeps (hgrows.keeps.trans hkeeps) hother, Except.ok.injEq] at hsame
  rw [← hsame, h.gone] at hheld
  cases hheld

end FileTree

namespace Session

variable {s : Session} {path source : Path} {bytes : Bytes}

/-! ## Operations of a real run -/

section Real

variable (hreal : s.dryRun = false) (hg : Grounded s.tree s.base)
  (hplain : ∀ n ∈ path, Path.isPlain n = true) (hpass : Guard.Allows s.tree s.base path)

include hg hplain hpass

/-- The entry of a path that does not stray is below the base. -/
theorem below_of_not_strays (hstays : ¬ s.Strays path) {made : FileTree} {entry : Path}
    (hm : s.tree.makeDirs path.dropLast s.refusals = (made, .ok ()))
    (he : made.entryOf path = .ok entry) (hd : made.get? entry ≠ some .directory) :
    Path.Below s.base entry := by
  by_contra hbelow
  rcases entry_cases hg.closed hplain hpass hm he with h | ⟨rfl, rfl | ⟨target, hlink⟩⟩
  · exact hbelow h
  · exact hd hg.directory
  · exact hstays ⟨entry, target, he, hbelow, hlink⟩

include hreal

/-- A file that has been written is found at its path, unless there was a link to a
directory. -/
theorem write_lands (hstays : ¬ s.Strays path) (hdirectory : s.tree.isDirectory path = false)
    (hok : (s.write path bytes).2 = .ok ()) :
    (s.write path bytes).1.tree.file? path = some bytes ∧
      Guard.Allows (s.write path bytes).1.tree s.base path := by
  obtain ⟨made, res, hm, ⟨entry, rfl, he, hd, hwrite⟩ | ⟨e, hwrite⟩⟩ :=
    write_cases hreal path bytes
  · have hroot := (inDirectory_of_entryOf he).ne_nil
    have hbelow := below_of_not_strays hg hplain hpass hstays hm he hd
    have hself := get?_put_self hroot (.file bytes) made
    rw [hwrite]
    refine lands_of_entry hplain ?_ hself hbelow
    by_cases hlink : ∃ target, made.get? entry = some (.link target)
    · obtain ⟨target, hlink⟩ := hlink
      rcases above_cases hg.closed hplain hpass hm with ⟨rfl, file, hleads, -⟩ |
        ⟨above, name, rfl, hthere, hmade⟩
      · obtain ⟨before, hheld⟩ := file_of_canonical hleads hdirectory
        exact entryOf_past hplain hleads he hheld (keeps_put_erase hroot _ _) he
      · obtain ⟨-, -, -, -, hnone⟩ := hmade.entry hg.closed (hplain name (by simp)) hthere he
        rw [(hmade.grows.tame hmade.closed).links entry target hlink] at hnone
        cases hnone
    · refine entryOf_keeps (.put_file made hroot bytes fun node hnode => ?_) he
      cases node with
      | file before => exact ⟨before, rfl⟩
      | directory => exact absurd hnode hd
      | link target => exact absurd ⟨target, hnode⟩ hlink
  · rw [hwrite] at hok
    cases hok

/-- Nothing is found at the path of a file that has been removed. -/
theorem remove_lands (hstays : ¬ s.Strays path) (hfile : s.tree.file? path = some bytes)
    (hok : (s.remove path).2 = .ok ()) :
    (s.remove path).1.tree.file? path = none ∧
      Guard.Allows (s.remove path).1.tree s.base path := by
  rcases remove_cases hreal path with ⟨entry, node, he, hnode, hd, hremove⟩ | ⟨e, hremove⟩
  · obtain ⟨file, hleads, hheld⟩ := file?_eq_some.1 hfile
    have hroot := (inDirectory_of_entryOf he).ne_nil
    have hbelow := below_of_not_strays hg hplain hpass hstays (makeDirs_of_entry hplain he) he
      (by rw [hnode]; simpa using hd)
    have he' := entryOf_past hplain hleads he hheld (.refl _) he
    have hnone : (s.tree.erase entry).get? entry = none := by rw [get?_erase hroot, if_pos rfl]
    rw [hremove]
    exact ⟨file?_of_missing hplain he' hnone, allows_of_missing hplain he' hnone hbelow⟩
  · rw [hremove] at hok
    cases hok

/-- A file that has been moved to another one is found at the new path, and nothing is found at
the old one. -/
theorem move_lands (hsource : ∀ n ∈ source, Path.isPlain n = true)
    (hpassSource : Guard.Allows s.tree s.base source) (hstays : ¬ s.Strays source)
    (hfile : s.tree.file? source = some bytes)
    (hapart : s.tree.canonical path ≠ s.tree.canonical source)
    (hok : (s.move source path).2 = .ok ()) :
    let after := (s.move source path).1.tree
    (after.file? source = none ∧ Guard.Allows after s.base source) ∧
      after.file? path = some bytes ∧ Guard.Allows after s.base path := by
  intro after
  rcases move_footprint hreal hg hplain hpass hsource hfile with
    ⟨-, made, origin, file, entry, target, hm, hw, hmoves⟩ | ⟨e, herror, -⟩
  · have hne := target_ne_of_apart hg.closed hplain hpass hm hw
      ((hmoves.paved.get?_iff (by simp) file).2 hmoves.held) (hmoves.leads ▸ hapart)
    obtain ⟨horigin, hdest⟩ := hmoves.lands hg hplain hpass hm hw hsource hne
    obtain ⟨node, hnode, hd⟩ :=
      entry_ne_directory hsource hmoves.leads hmoves.origin_eq hmoves.held
    have hbelow := below_of_not_strays hg hsource hpassSource hstays
      (makeDirs_of_entry hsource hmoves.origin_eq) hmoves.origin_eq
      (by rw [hnode]; simpa using hd)
    exact ⟨⟨file?_of_missing hsource horigin hmoves.gone,
      allows_of_missing hsource horigin hmoves.gone hbelow⟩, (hmoves.arrives hne).2, hdest⟩
  · rw [herror] at hok
    cases hok

end Real

/-! ### Other paths to the file -/

section Other

variable {file other : Path} {before : Bytes} (hreal : s.dryRun = false)
  (hplain : ∀ n ∈ path, Path.isPlain n = true) (he : s.tree.entryOf path = .ok file)
  (hheld : s.tree.get? file = some (.file before)) (hother : s.tree.canonical other = .ok file)

include hreal he hheld hother

/-- A file that has been removed is found at no path. -/
theorem remove_other (hok : (s.remove path).2 = .ok ()) :
    (s.remove path).1.tree.file? other = none := by
  rw [remove_of_entry hreal he hheld (by simp)] at hok ⊢
  cases hrefusal : s.refusals.remove s.tree path with
  | none => exact file?_of_erase (inDirectory_of_entryOf he).ne_nil hother
  | some e =>
      rw [hrefusal] at hok
      cases hok

include hplain

/-- What has been written to a file is found at all paths that lead to it. -/
theorem write_other (hok : (s.write path bytes).2 = .ok ()) :
    (s.write path bytes).1.tree.canonical other = .ok file ∧
      (s.write path bytes).1.tree.file? other = some bytes := by
  obtain ⟨made, res, hm, ⟨entry, rfl, he', -, hwrite⟩ | ⟨e, hwrite⟩⟩ :=
    write_cases hreal path bytes
  · obtain ⟨rfl, -⟩ := Prod.mk.inj ((makeDirs_of_entry hplain he).symm.trans hm)
    obtain rfl := Except.ok.inj (he.symm.trans he')
    have hroot := (inDirectory_of_entryOf he).ne_nil
    have hleads : (s.tree.put file (.file bytes)).canonical other = .ok file := by
      refine canonical_keeps (.put_file s.tree hroot bytes fun node hnode => ⟨before, ?_⟩) hother
      exact Option.some.inj (hnode.symm.trans hheld)
    rw [hwrite]
    exact ⟨hleads, file?_eq_some.2 ⟨file, hleads, get?_put_self hroot _ _⟩⟩
  · rw [hwrite] at hok
    cases hok

/-- A file that has been moved to another one is found at no path that led to it. -/
theorem move_other (hg : Grounded s.tree s.base) {destination : Path}
    (hdest : ∀ n ∈ destination, Path.isPlain n = true)
    (hpass : Guard.Allows s.tree s.base destination) (hleads : s.tree.canonical path = .ok file)
    (hapart : s.tree.canonical destination ≠ s.tree.canonical path)
    (hok : (s.move path destination).2 = .ok ()) :
    (s.move path destination).1.tree.file? other = none := by
  have hfile := file?_eq_some.2 ⟨file, hleads, hheld⟩
  rcases move_footprint hreal hg hdest hpass hplain hfile with
    ⟨-, made, origin, place, entry, target, hm, hw, hmoves⟩ | ⟨e, herror, -⟩
  · obtain rfl := Except.ok.inj (hleads.symm.trans hmoves.leads)
    obtain rfl := Except.ok.inj (he.symm.trans hmoves.origin_eq)
    have hne := target_ne_of_apart hg.closed hdest hpass hm hw
      ((hmoves.paved.get?_iff (by simp) file).2 hmoves.held) (hleads ▸ hapart)
    exact hmoves.file?_other hg hdest hpass hm hw hne hother
  · rw [herror] at hok
    cases hok

end Other

end Session

end Emend
