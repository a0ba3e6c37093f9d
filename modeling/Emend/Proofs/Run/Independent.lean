import Emend.Proofs.Run.Effect
import Emend.Proofs.Workspace.Imprint
/-!
# Independent file patches

Two file patches are independent if no path that the one names leads through a path that the
other names.  On a tree without links, such file patches can be carried out in either order.

*Operations.*  What an operation of a real run comes to is settled by what is on the way to
its paths.  On trees that look alike there, it ends in the same way and leaves the same
imprint, be it that it fails midway (`Leaves`).

*File patches.*  The same holds of a file patch, since its action is one operation at most
(`execute_leaves`).

*Orders.*  A file patch leaves the tree alike along the paths of one that is independent of
it.  So each of the two leaves the same imprint whether it comes first or second, and imprints
at paths that are apart commute (`executeAll_comm`).
-/

namespace Emend

open FileTree

namespace Imprint

variable {i : Imprint} {old mid new : FileTree} {path : Path} {left : Option Node}
  {paths : List Path}

/-- An imprint, and then something left at a path. -/
def strike (path : Path) (left : Option Node) (i : Imprint) : Imprint :=
  { i with struck := fun p => if p = path then some left else i.struck p }

theorem strike_marks (h : i.Marks old mid)
    (hnew : ∀ p, new.get? p = if p = path then left else mid.get? p) :
    (i.strike path left).Marks old new := by
  intro p
  rw [hnew]
  by_cases hp : p = path
  · simp [strike, after, hp]
  · have hstruck : (i.strike path left).struck p = i.struck p := if_neg hp
    rw [if_neg hp, h p, after, after, hstruck]
    rfl

theorem strike_within (h : i.Within paths) (hpath : path ∈ paths) :
    (i.strike path left).Within paths := by
  refine ⟨h.paved, fun p hp => ?_⟩
  by_cases heq : p = path
  · exact heq ▸ hpath
  · exact h.struck p (by simpa [strike, heq] using hp)

/-- What is there stays, but at the paths of the imprint. -/
theorem Within.keeps (h : i.Within paths) (hpath : path ∉ paths) (node : Node) :
    i.after path (some node) = some node := by
  have hstruck : i.struck path = none := by
    by_contra hne
    exact hpath (h.struck path hne)
  simp [after, hstruck]

theorem ofPaved_within {paved : Path → Bool} (hwithin : ∀ p, paved p = true → p <+: path.dropLast)
    (hpath : path ∈ paths) : (ofPaved paved).Within paths :=
  ⟨fun p hp => ⟨path, hpath, (hwithin p hp).trans (List.dropLast_prefix path)⟩, by simp [ofPaved]⟩

end Imprint

namespace Session

/-! ## Operations that leave the same -/

/-- Two operations end in the same way and leave the same imprint. -/
structure Leaves (i : Imprint) {α : Type} (s s' : Session) (op op' : Session × α) : Prop where
  /-- The results are the same. -/
  result : op.2 = op'.2
  /-- The one changes its tree only. -/
  first : op.1 = { s with tree := op.1.tree }
  /-- So does the other one. -/
  second : op'.1 = { s' with tree := op'.1.tree }
  /-- What the one leaves. -/
  marks : i.Marks s.tree op.1.tree
  /-- What the other one leaves. -/
  marks' : i.Marks s'.tree op'.1.tree

variable {s : Session} {other : FileTree} {path source : Path} {i : Imprint}

theorem Leaves.none {α : Type} (s s' : Session) (a : α) : Leaves {} s s' (s, a) (s', a) :=
  ⟨rfl, rfl, rfl, Imprint.marks_empty _, Imprint.marks_empty _⟩

theorem Leaves.concluding {s s' : Session} {op op' : Session × Except FileError Unit}
    (h : Leaves i s s' op op') (failing : String) (success : Outcome) :
    Leaves i s s' (concluding failing success op) (concluding failing success op') := by
  obtain ⟨op, res⟩ := op
  obtain ⟨op', res'⟩ := op'
  obtain ⟨rfl, hfirst, hsecond, hmarks, hmarks'⟩ := h
  cases res <;> exact ⟨rfl, hfirst, hsecond, hmarks, hmarks'⟩

section Free

variable (hfree : s.refusals = {})

include hfree

theorem replace_free (bytes : Bytes) :
    s.replace path bytes = s.change none (replaceFile path bytes) := by
  rw [replace, hfree]

theorem copy_free : s.copy source path = s.change none (copyFile id source path) := by
  rw [copy, hfree]

/-- A file that is there can be removed. -/
theorem remove_file (hreal : s.dryRun = false) (h : Bare s.base s.tree)
    (hpath : Path.IsFrom s.base path) {bytes : Bytes} (hfile : s.tree.file? path = some bytes) :
    s.remove path = ({ s with tree := s.tree.erase path }, .ok ()) ∧ path ≠ [] := by
  obtain ⟨hnode, he⟩ := h.entry_of_file hpath hfile
  have hgranted : s.refusals.remove s.tree path = none := by rw [hfree]
  refine ⟨?_, (inDirectory_of_entryOf he).ne_nil⟩
  rw [remove_of_entry hreal he hnode (by simp), hgranted]

end Free

section Operations

variable (hfree : s.refusals = {}) (h : Bare s.base s.tree) (h' : Bare s.base other)
  (hpath : Path.IsFrom s.base path)

include hfree h h' hpath

/-- A change that comes to the same on trees in which the directories above have been made
leaves the same, from before they were made. -/
theorem changeIn_leaves (halike : Alike path s.tree other) {bytes : Bytes}
    {op : Session → Session × Except FileError Unit} {f : FileTree → Except FileError FileTree}
    (hop : ∀ tree, op { s with tree } = change { s with tree } none f)
    (hf : ∀ made made', Settled s.base path s.tree other made made' →
      ChangesAlike path bytes made made' f) :
    ∃ i : Imprint, i.Within [path] ∧
      Leaves i s { s with tree := other } (s.changeIn path op)
        (changeIn { s with tree := other } path op) := by
  obtain ⟨hres, paved, hmarks, hmarks', hwithin, -⟩ :=
    PavesAlike.makeAbove h h' hpath halike.along
  have hpaved := Imprint.ofPaved_within hwithin (List.mem_singleton_self path)
  cases hm : s.tree.makeDirs path.dropLast with
  | mk made res =>
  cases hm' : other.makeDirs path.dropLast with
  | mk made' res' =>
  rw [hm, hm'] at hres
  rw [hm] at hmarks
  rw [hm'] at hmarks'
  obtain rfl : res = res' := hres
  have hmake : ∀ tree : FileTree,
      tree.makeDirs path.dropLast s.refusals = tree.makeDirs path.dropLast := fun _ => by rw [hfree]
  -- Where the change is not made, only directories are left.
  have hfailed : ∀ e, (s.changeIn path op = ({ s with tree := made }, .error e) ∧
      changeIn { s with tree := other } path op = ({ s with tree := made' }, .error e)) →
      ∃ i : Imprint, i.Within [path] ∧ Leaves i s { s with tree := other } (s.changeIn path op)
        (changeIn { s with tree := other } path op) := by
    rintro e ⟨hfirst, hsecond⟩
    rw [hfirst, hsecond]
    exact ⟨_, hpaved, rfl, rfl, rfl, hmarks, hmarks'⟩
  cases res with
  | error e =>
      exact hfailed e ⟨by simp only [changeIn, hmake, hm], by simp only [changeIn, hmake, hm']⟩
  | ok u =>
  rcases hf made made' (settled h h' hpath halike.here hm hm' hmarks hmarks' hwithin) with
    ⟨e, he, he'⟩ | ⟨hne, hnew, hnew'⟩
  · exact hfailed e ⟨by simp only [changeIn, hmake, hm, hop, change, he],
      by simp only [changeIn, hmake, hm', hop, change, he']⟩
  · refine ⟨(Imprint.ofPaved paved).strike path (some (.file bytes)),
      Imprint.strike_within hpaved (List.mem_singleton_self path), ?_⟩
    have hfirst : s.changeIn path op =
        ({ s with tree := made.put path (.file bytes) }, .ok ()) := by
      simp only [changeIn, hmake, hm, hop, change, hnew]
    have hsecond : changeIn { s with tree := other } path op =
        ({ s with tree := made'.put path (.file bytes) }, .ok ()) := by
      simp only [changeIn, hmake, hm', hop, change, hnew']
    rw [hfirst, hsecond]
    exact ⟨rfl, rfl, rfl, Imprint.strike_marks hmarks (get?_put hne _ _),
      Imprint.strike_marks hmarks' (get?_put hne _ _)⟩

variable (hreal : s.dryRun = false)

include hreal

theorem write_leaves (halike : Alike path s.tree other) (bytes : Bytes) :
    ∃ i : Imprint, i.Within [path] ∧
      Leaves i s { s with tree := other } (s.write path bytes)
        (write { s with tree := other } path bytes) := by
  rw [write_real hreal, write_real (s := { s with tree := other }) hreal]
  exact changeIn_leaves hfree h h' hpath halike
    (fun tree => replace_free (s := { s with tree }) hfree bytes)
    fun made made' hs => hs.replaceFile hpath bytes

/-- A file that both trees hold is removed alike. -/
theorem remove_leaves {bytes : Bytes} (hfile : s.tree.file? path = some bytes)
    (hfile' : other.file? path = some bytes) :
    Leaves (Imprint.strike path none {}) s { s with tree := other } (s.remove path)
      (remove { s with tree := other } path) := by
  obtain ⟨hremove, hne⟩ := remove_file hfree hreal h hpath hfile
  obtain ⟨hremove', -⟩ := remove_file (s := { s with tree := other }) hfree hreal h' hpath hfile'
  rw [hremove, hremove']
  exact ⟨rfl, rfl, rfl, Imprint.strike_marks (Imprint.marks_empty _) (get?_erase hne _),
    Imprint.strike_marks (Imprint.marks_empty _) (get?_erase hne _)⟩

/-- A file is moved alike: neither is copied, or both are and then the file is removed. -/
theorem move_leaves (hsource : Path.IsFrom s.base source) (hne : source ≠ path)
    (halike : Alike path s.tree other) {bytes : Bytes}
    (hfile : s.tree.file? source = some bytes) (hfile' : other.file? source = some bytes) :
    ∃ i : Imprint, i.Within [source, path] ∧
      Leaves i s { s with tree := other } (s.move source path)
        (move { s with tree := other } source path) := by
  obtain ⟨i, hwithin, hres, hfirst, hsecond, hmarks, hmarks'⟩ :=
    changeIn_leaves hfree h h' hpath halike (fun tree => copy_free (s := { s with tree }) hfree)
      fun made made' hs => hs.copyFile hpath hsource hne hfile hfile' h h'
  have hmore : i.Within [source, path] := hwithin.mono (by simp)
  have hbare := (copy_ran h.grounded hpath.plain
    (allows_of_linkFree h.grounded h.linkFree hpath) source).1.tame
  have hbare' := (copy_ran (s := { s with tree := other }) h'.grounded hpath.plain
    (allows_of_linkFree h'.grounded h'.linkFree hpath) source).1.tame
  rw [move_real hreal, move_real (s := { s with tree := other }) hreal]
  cases hc : s.changeIn path (copy source path) with
  | mk mid res =>
  cases hc' : changeIn { s with tree := other } path (copy source path) with
  | mk mid' res' =>
  rw [hc] at hres hfirst hmarks hbare
  rw [hc'] at hres hsecond hmarks' hbare'
  obtain rfl : res = res' := hres
  cases res with
  | error e => exact ⟨i, hmore, rfl, hfirst, hsecond, hmarks, hmarks'⟩
  | ok u =>
      obtain ⟨copied, rfl⟩ : ∃ t, mid = { s with tree := t } := ⟨_, hfirst⟩
      obtain ⟨copied', rfl⟩ : ∃ t, mid' = { s with tree := t } := ⟨_, hsecond⟩
      have hcopied := h.tame hbare
      have hcopied' := h'.tame hbare'
      have hkept : ∀ {old new : FileTree}, Bare s.base old → Bare s.base new →
          i.Marks old new → old.file? source = some bytes → new.file? source = some bytes := by
        intro old new hold hnew hmarks hfile
        have hnode := (hold.entry_of_file hsource hfile).1
        rw [← hold.file?_congr hnew hsource (.inl ?_), hfile]
        rw [hmarks, hnode, hwithin.keeps (by simpa using hne)]
      obtain ⟨hremove, hroot⟩ := remove_file (s := { s with tree := copied }) hfree hreal hcopied
        hsource (hkept h hcopied hmarks hfile)
      obtain ⟨hremove', -⟩ := remove_file (s := { s with tree := copied' }) hfree hreal hcopied'
        hsource (hkept h' hcopied' hmarks' hfile')
      simp only [hremove, hremove']
      exact ⟨i.strike source none, Imprint.strike_within hmore (by simp), rfl, rfl, rfl,
        Imprint.strike_marks hmarks (get?_erase hroot _),
        Imprint.strike_marks hmarks' (get?_erase hroot _)⟩

end Operations

/-! ## File patches -/

/-- The paths that a file patch names, of those that the guard lets pass. -/
def paths (s : Session) (patch : FilePatch) : List Path :=
  patch.names.filterMap fun written => (s.resolve written).toOption

theorem mem_paths {patch : FilePatch} {written : Text} (hmem : written ∈ patch.names)
    (h : s.resolve written = .ok path) : path ∈ s.paths patch :=
  List.mem_filterMap.2 ⟨written, hmem, by simp [h, Except.toOption]⟩

theorem mem_paths_of_path {patch : FilePatch} (h : s.resolve patch.path = .ok path) :
    path ∈ s.paths patch :=
  mem_paths (by simp [FilePatch.names]) h

theorem mem_paths_of_destination {patch : FilePatch} {written : Text} {overwrite : Bool}
    (haction : patch.action = .moveFile written overwrite) (h : s.resolve written = .ok path) :
    path ∈ s.paths patch :=
  mem_paths (by simp [FilePatch.names, haction]) h

theorem resolve_congr (h : Bare s.base s.tree) (h' : Bare s.base other) :
    resolve { s with tree := other } = s.resolve := by
  funext written
  exact resolve_eq h'.grounded h'.linkFree h.grounded h.linkFree written

theorem file?_alike (hreal : s.Real) (h : Bare s.base s.tree) (h' : Bare s.base other)
    (hpath : Path.IsFrom s.base path) (halike : Alike path s.tree other) :
    file? { s with tree := other } path = s.file? path := by
  have hreal' : Real { s with tree := other } := ⟨hreal.dryRun, hreal.staged⟩
  rw [hreal.file?_eq, hreal'.file?_eq]
  exact (h.file?_congr h' hpath (.inl halike.here)).symm

/-- On trees that look alike along the paths of a file patch, its action comes to the same. -/
theorem perform_leaves (hreal : s.Real) (hfree : s.refusals = {}) (h : Bare s.base s.tree)
    (h' : Bare s.base other) (patch : FilePatch) (halike : ∀ p ∈ s.paths patch, Alike p s.tree other)
    (hresolve : s.resolve patch.path = .ok path) :
    ∃ i : Imprint, i.Within (s.paths patch) ∧
      Leaves i s { s with tree := other } (s.perform path patch.action)
        (perform { s with tree := other } path patch.action) := by
  have hpath := h.grounded.isFrom_of_resolve hresolve
  have hmem := mem_paths_of_path hresolve
  have hdeed : Deed.ofAction (file? { s with tree := other }) (resolve { s with tree := other })
      path patch.action = Deed.ofAction s.file? s.resolve path patch.action := by
    rw [resolve_congr h h']
    refine Deed.ofAction_congr (file?_alike hreal h h' hpath (halike path hmem)) ?_
    intro written overwrite p haction hp
    exact file?_alike hreal h h' (h.grounded.isFrom_of_resolve hp)
      (halike p (mem_paths_of_destination haction hp))
  have hfits := Deed.fits_ofAction s.file? s.resolve path patch.action
  have hsub : ∀ p ∈ [path], p ∈ s.paths patch := by simpa using hmem
  rw [perform_eq, perform_eq, hdeed]
  cases hcase : Deed.ofAction s.file? s.resolve path patch.action with
  | leave outcome => exact ⟨{}, Imprint.within_empty _, .none _ _ _⟩
  | save content failing message =>
      obtain ⟨i, hwithin, hwrite⟩ :=
        write_leaves hfree h h' hpath hreal.dryRun (halike path hmem) (Utf8.encode content)
      exact ⟨i, hwithin.mono hsub, hwrite.concluding _ _⟩
  | delete =>
      obtain ⟨bytes, hfile⟩ := Option.isSome_iff_exists.1 (Deed.isSome_of_delete hcase)
      rw [hreal.file?_eq] at hfile
      have hfile' := h.file?_congr h' hpath (.inl (halike path hmem).here)
      rw [hfile] at hfile'
      exact ⟨_, Imprint.strike_within (Imprint.within_empty _) hmem,
        (remove_leaves hfree h h' hpath hreal.dryRun hfile hfile'.symm).concluding _ _⟩
  | move destination written =>
      rw [hcase] at hfits
      obtain ⟨hseen, hdest, hne⟩ := hfits
      obtain ⟨overwrite, haction⟩ : ∃ overwrite, patch.action = .moveFile written overwrite := by
        have hsuits := Deed.suits_ofAction s.file? s.resolve path patch.action
        rwa [hcase] at hsuits
      have hmemDest := mem_paths_of_destination haction hdest
      obtain ⟨bytes, hfile⟩ := Option.isSome_iff_exists.1 hseen
      rw [hreal.file?_eq] at hfile
      have hfile' := h.file?_congr h' hpath (.inl (halike path hmem).here)
      rw [hfile] at hfile'
      obtain ⟨i, hwithin, hmove⟩ := move_leaves hfree h h' (h.grounded.isFrom_of_resolve hdest)
        hreal.dryRun hpath (Ne.symm hne) (halike destination hmemDest) hfile hfile'.symm
      exact ⟨i, hwithin.mono (by simp [hmem, hmemDest]), hmove.concluding _ _⟩

/-- On a tree that looks alike along the paths that it names, a file patch has the same result
and leaves the same imprint. -/
theorem execute_leaves (hreal : s.Real) (hfree : s.refusals = {}) (h : Bare s.base s.tree)
    (h' : Bare s.base other) (patch : FilePatch) (halike : ∀ p ∈ s.paths patch, Alike p s.tree other) :
    ∃ i : Imprint, i.Within (s.paths patch) ∧
      Leaves i s { s with tree := other } (s.execute patch)
        (execute { s with tree := other } patch) := by
  unfold execute
  rw [resolve_congr h h']
  cases hresolve : s.resolve patch.path with
  | error e => exact ⟨{}, Imprint.within_empty _, .none _ _ _⟩
  | ok path =>
      obtain ⟨i, hwithin, hres, hfirst, hsecond, hmarks, hmarks'⟩ :=
        perform_leaves hreal hfree h h' patch halike hresolve
      exact ⟨i, hwithin, by simp only [hres], hfirst, hsecond, hmarks, hmarks'⟩

/-! ## Both orders -/

/-- No path that the one file patch names leads through a path that the other names. -/
def Independent (s : Session) (first second : FilePatch) : Prop :=
  ∀ p ∈ s.paths first, ∀ q ∈ s.paths second, Path.Apart p q

theorem Independent.symm {first second : FilePatch} (h : Independent s first second) :
    Independent s second first :=
  fun q hq p hp => (h p hp q hq).symm

/-- A file patch leaves the tree alike along the paths of one that is independent of it. -/
theorem execute_alike (hreal : s.Real) (hfree : s.refusals = {}) (h : Bare s.base s.tree)
    {patch next : FilePatch} (hindependent : Independent s next patch) :
    ∃ after, (s.execute patch).1 = { s with tree := after } ∧ Bare s.base after ∧
      ∀ p ∈ s.paths next, Alike p s.tree after := by
  have hran := execute_ran hreal h.grounded patch
  obtain ⟨i, hwithin, -, -, -, hmarks, -⟩ :=
    execute_leaves hreal hfree h h patch fun p _ => Alike.refl p s.tree
  exact ⟨_, hran.frame, h.tame hran.tame,
    fun p hp => hwithin.alike hmarks fun q hq => hindependent p hp q hq⟩

/-- Independent file patches have the same results and leave the same tree in either order. -/
theorem executeAll_comm {tree : FileTree} {base : Path} (hg : Grounded tree base)
    (hfree : LinkFree base tree) {first second : FilePatch}
    (hindependent : Independent { base, dryRun := false, tree } first second) :
    let start : Session := { base, dryRun := false, tree }
    ∃ resultFirst resultSecond,
      (start.executeAll [first, second]).2 = [resultFirst, resultSecond] ∧
        (start.executeAll [second, first]).2 = [resultSecond, resultFirst] ∧
        ∀ path, (start.executeAll [first, second]).1.tree.get? path =
          (start.executeAll [second, first]).1.tree.get? path := by
  intro start
  have hreal : start.Real := ⟨rfl, fun _ => rfl⟩
  have hbare : Bare start.base start.tree := ⟨hg, hfree⟩
  obtain ⟨afterFirst, hfirst, hbareFirst, halikeFirst⟩ :=
    execute_alike hreal rfl hbare hindependent.symm
  obtain ⟨afterSecond, hsecond, hbareSecond, halikeSecond⟩ :=
    execute_alike hreal rfl hbare hindependent
  -- Each leaves what it would have left if it had come first.
  obtain ⟨i, hi, hresultFirst, -, -, hmarksFirst, hmarksFirst'⟩ :=
    execute_leaves hreal rfl hbare hbareSecond first halikeSecond
  obtain ⟨j, hj, hresultSecond, -, -, hmarksSecond, hmarksSecond'⟩ :=
    execute_leaves hreal rfl hbare hbareFirst second halikeFirst
  rw [← hsecond] at hresultFirst hmarksFirst'
  rw [← hfirst] at hresultSecond hmarksSecond'
  refine ⟨(start.execute first).2, (start.execute second).2, ?_, ?_, fun path => ?_⟩
  · simp only [executeAll, hresultSecond]
  · simp only [executeAll, hresultFirst]
  · calc ((start.execute first).1.execute second).1.tree.get? path
        = j.after path (i.after path (tree.get? path)) := by
          rw [hmarksSecond', hmarksFirst]
      _ = i.after path (j.after path (tree.get? path)) :=
          (Imprint.after_comm hi hj hindependent path _).symm
      _ = ((start.execute second).1.execute first).1.tree.get? path := by
          rw [hmarksFirst', hmarksSecond]

/-- A base `/w` with a file. -/
def singleFile : FileTree where
  entries := [([['w']], .directory), ([['w'], ['a']], .file [104, 105])]

/-- One file patch moves the file into a directory that is yet to be made, and the other one
creates a file there. -/
theorem executeAll_comm_newDirectory :
    let start : Session := { base := [['w']], dryRun := false, tree := singleFile }
    let moving : FilePatch := ⟨"a".toList, [], .moveFile "d/a".toList false⟩
    let creating : FilePatch := ⟨"d/b".toList, [], .createFile "x".toList⟩
    ∃ moved created,
      (start.executeAll [moving, creating]).2 = [moved, created] ∧
        (start.executeAll [creating, moving]).2 = [created, moved] ∧
        ∀ path, (start.executeAll [moving, creating]).1.tree.get? path =
          (start.executeAll [creating, moving]).1.tree.get? path := by
  intro start moving creating
  refine executeAll_comm ⟨closed_of_entries (by decide), rfl, rfl⟩
    (linkFree_of_entries fun e he target => ?_) ?_
  · revert e
    simp [singleFile]
  · have hmoving : start.paths moving = [[['w'], ['a']], [['w'], ['d'], ['a']]] := by decide
    have hcreating : start.paths creating = [[['w'], ['d'], ['b']]] := by decide
    rw [Independent, hmoving, hcreating]
    unfold Path.Apart
    decide

end Session

end Emend
