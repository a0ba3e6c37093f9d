import Emend.Proofs.Run.Deed
import Emend.Proofs.Workspace.LinkFree
/-!
# Dry runs

A dry run stages what a real run would do.  From a base without links, the two do the
same for as long as the real run can write what it has to.

*Frame.*  A dry run changes what is staged and nothing else (`execute_staging`).

*Simulation.*  `Mirrors` relates a dry run to a real one: at each path from the base
the dry run sees the file that the tree of the real run holds.  Each operation that
succeeds keeps this (`Mirrors.write`, `Mirrors.remove`, `Mirrors.move`), and an action
looks at its session through `file?` and `resolve` only.  So each file patch has the same
outcome in both, unless the real one says that a file could not be changed
(`execute_agree`).
-/

namespace Emend

open FileTree

/-- The bytes that a staged file has. -/
def Staged.bytes? : Staged → Option Bytes
  | written bytes => some bytes
  | removed => none

namespace Session

variable {s s' dry real dry' real' : Session} {path : Path}

theorem file?_stage_self (s : Session) (path : Path) (what : Staged) :
    (s.stage path what).file? path = what.bytes? := by
  cases what <;> simp [stage, file?, Staged.bytes?]

theorem file?_stage_of_ne (s : Session) {path other : Path} (what : Staged) (h : other ≠ path) :
    (s.stage path what).file? other = s.file? other := by
  simp [stage, file?, h]

/-! ## What a dry run changes -/

/-- Nothing but what is staged changes. -/
def Staging (s s' : Session) : Prop := s' = { s with staged := s'.staged }

theorem Staging.refl (s : Session) : Staging s s := rfl

theorem Staging.trans (h₁ : Staging s dry) (h₂ : Staging dry s') : Staging s s' := by
  rw [Staging, h₂, h₁]

theorem staging_stage (s : Session) (path : Path) (what : Staged) :
    Staging s (s.stage path what) := rfl

theorem Staging.dryRun_eq (h : Staging s s') : s'.dryRun = s.dryRun := by
  rw [h]

theorem Staging.tree_eq (h : Staging s s') : s'.tree = s.tree := by
  rw [h]

theorem Staging.concluding {op : Session × Except FileError Unit} (h : Staging s op.1)
    (failing : String) (success : Outcome) :
    Staging s (Session.concluding failing success op).1 := by
  obtain ⟨op, res⟩ := op
  cases res <;> exact h

section Dry

variable (hdry : s.dryRun = true)

include hdry

theorem write_dry (path : Path) (bytes : Bytes) :
    s.write path bytes = (s.stage path (.written bytes), .ok ()) := by
  rw [write, if_pos hdry]

theorem remove_dry (path : Path) : s.remove path = (s.stage path .removed, .ok ()) := by
  rw [remove, if_pos hdry]

theorem move_dry {source : Path} {bytes : Bytes} (h : s.file? source = some bytes) (path : Path) :
    s.move source path =
      ((s.stage path (.written bytes)).stage source .removed, .ok ()) := by
  rw [move, if_pos hdry, h]

theorem move_staging (source path : Path) : Staging s (s.move source path).1 := by
  rw [move, if_pos hdry]
  split
  · exact (staging_stage s path _).trans (staging_stage _ source _)
  · exact .refl s

theorem perform_staging (path : Path) (action : Action) :
    Staging s (s.perform path action).1 := by
  rw [perform_eq]
  cases Deed.ofAction s.file? s.resolve path action with
  | leave outcome => exact .refl s
  | save content failing message =>
      refine Staging.concluding ?_ _ _
      rw [write_dry hdry]
      exact staging_stage s path _
  | delete =>
      refine Staging.concluding ?_ _ _
      rw [remove_dry hdry]
      exact staging_stage s path _
  | move destination written => exact (move_staging hdry path destination).concluding _ _

/-- A file patch changes nothing but what is staged. -/
theorem execute_staging (patch : FilePatch) : Staging s (s.execute patch).1 := by
  unfold execute
  cases s.resolve patch.path with
  | error e => exact .refl s
  | ok path => exact perform_staging hdry path patch.action

theorem executeAll_staging (patches : List FilePatch) :
    Staging s (s.executeAll patches).1 := by
  induction patches generalizing s with
  | nil => exact .refl s
  | cons patch rest ih =>
      have hstep := execute_staging hdry patch
      exact hstep.trans (ih (hstep.dryRun_eq.trans hdry))

end Dry

/-! ## What the two runs have in common -/

/-- A dry run sees the files that the tree of a real run holds. -/
structure Mirrors (dry real : Session) : Prop where
  /-- They have the same base. -/
  base_eq : real.base = dry.base
  /-- One is a dry run. -/
  dryRun : dry.dryRun = true
  /-- The other one is not. -/
  isReal : real.Real
  /-- The dry run has a base in its tree. -/
  grounded : Grounded dry.tree dry.base
  /-- There is no link below it. -/
  linkFree : LinkFree dry.base dry.tree
  /-- The real run has it in its tree. -/
  groundedReal : Grounded real.tree dry.base
  /-- There is no link below it. -/
  linkFreeReal : LinkFree dry.base real.tree
  /-- The files are the same. -/
  view : ∀ path, Path.IsFrom dry.base path → dry.file? path = real.tree.file? path

theorem Mirrors.resolve_eq (h : Mirrors dry real) : dry.resolve = real.resolve := by
  funext written
  rw [resolve, resolve, h.base_eq]
  exact Emend.resolve_eq h.grounded h.linkFree h.groundedReal h.linkFreeReal written

/-- A change keeps the two in step if both see the same files again. -/
theorem Mirrors.after (h : Mirrors dry real) (hdry : Staging dry dry') {tree : FileTree}
    (htame : Tame real.tree tree)
    (hview : ∀ path, Path.IsFrom dry.base path → dry'.file? path = tree.file? path) :
    Mirrors dry' { real with tree } := by
  have hbase : dry'.base = dry.base := by rw [hdry]
  have htree := hdry.tree_eq
  refine ⟨h.base_eq.trans hbase.symm, hdry.dryRun_eq.trans h.dryRun,
    ⟨h.isReal.dryRun, h.isReal.staged⟩, ?_, ?_, ?_, ?_, ?_⟩
  · rw [hbase, htree]
    exact h.grounded
  · rw [hbase, htree]
    exact h.linkFree
  · rw [hbase]
    exact htame.grounded h.groundedReal
  · rw [hbase]
    exact htame.linkFree h.linkFreeReal
  · rw [hbase]
    exact hview

end Session

namespace FileTree

variable {base path : Path} {old new : FileTree}

/-- The files of two trees are the same where the trees hold the same files. -/
theorem file?_congr (hold : Grounded old base) (hfree : LinkFree base old) (htame : Tame old new)
    (hpath : Path.IsFrom base path)
    (h : ∀ bytes, new.get? path = some (.file bytes) ↔ old.get? path = some (.file bytes)) :
    new.file? path = old.file? path := by
  apply Option.ext
  intro bytes
  rw [file?_eq_some_iff hold hfree hpath,
    file?_eq_some_iff (htame.grounded hold) (htame.linkFree hfree) hpath, fileAt_eq_some,
    fileAt_eq_some, h]

theorem Grows.file_iff (h : Grows base old new) (bytes : Bytes) :
    new.get? path = some (.file bytes) ↔ old.get? path = some (.file bytes) := by
  rcases h path with hsame | ⟨hnone, hd, -⟩
  · rw [hsame]
  · rw [hnone, hd]
    simp

/-- A change at an entry is seen there and nowhere else. -/
theorem Strikes.file?_eq {made : FileTree} (hold : Grounded old base) (hfree : LinkFree base old)
    (hgrows : Grows base old made) (hclosed : made.Closed) (hin : InDirectory made path)
    (hd : made.get? path ≠ some .directory) (hnew : Strikes path made new)
    (hproper : ∀ n ∈ path, Path.isProper n = true) :
    Tame old new ∧ ∀ other, Path.IsFrom base other →
      new.file? other = if other = path then new.fileAt path else old.file? other := by
  have htame := (hgrows.tame hclosed).trans (hnew.tame hclosed hin hd)
  refine ⟨htame, fun other hother => ?_⟩
  split
  · next heq =>
    subst heq
    apply Option.ext
    intro bytes
    rw [file?_eq_some_iff (htame.grounded hold) (htame.linkFree hfree) hother]
    exact ⟨And.right, fun h => ⟨hproper, h⟩⟩
  · next hne =>
    refine file?_congr hold hfree htame hother fun bytes => ?_
    rw [hnew.get?_of_ne hin.ne_nil hne, hgrows.file_iff]

end FileTree

namespace Session

variable {dry real : Session} {path : Path}

/-- The two stay in step if what is staged at a path is what is found at its entry. -/
theorem Mirrors.strike (h : Mirrors dry real) (hpath : Path.IsFrom dry.base path)
    {made new : FileTree} {refusals : Refusals}
    (hm : real.tree.makeDirs path.dropLast refusals = (made, .ok ()))
    (hin : InDirectory made path) (hd : made.get? path ≠ some .directory)
    (hproper : ∀ n ∈ path, Path.isProper n = true) (hnew : Strikes path made new)
    {what : Staged} (hwhat : new.fileAt path = what.bytes?) :
    Mirrors (dry.stage path what) { real with tree := new } := by
  have hpass := allows_of_linkFree h.groundedReal h.linkFreeReal hpath
  obtain ⟨hgrows, hclosed⟩ := grows_of_makeDirs h.groundedReal.closed hpath.plain hpass hm
  obtain ⟨htame, hseen⟩ :=
    hnew.file?_eq h.groundedReal h.linkFreeReal hgrows hclosed hin hd hproper
  refine h.after (staging_stage dry path what) htame fun other hother => ?_
  rw [hseen other hother]
  split
  · next heq => rw [heq, file?_stage_self, hwhat]
  · next hne => rw [file?_stage_of_ne dry what hne, h.view other hother]

/-- What has been made above a path is no less of a tree with that base. -/
theorem Mirrors.made (h : Mirrors dry real) (hpath : Path.IsFrom dry.base path)
    {made : FileTree} {refusals : Refusals} {res : Except FileError Unit}
    (hm : real.tree.makeDirs path.dropLast refusals = (made, res)) :
    Grounded made dry.base ∧ LinkFree dry.base made := by
  have hpass := allows_of_linkFree h.groundedReal h.linkFreeReal hpath
  obtain ⟨hgrows, hclosed⟩ := grows_of_makeDirs h.groundedReal.closed hpath.plain hpass hm
  have htame := hgrows.tame hclosed
  exact ⟨htame.grounded h.groundedReal, htame.linkFree h.linkFreeReal⟩

theorem fileAt_put {path : Path} (h : path ≠ []) (bytes : Bytes) (tree : FileTree) :
    (tree.put path (.file bytes)).fileAt path = some bytes :=
  fileAt_eq_some.2 (get?_put_self h _ tree)

theorem Mirrors.write (h : Mirrors dry real) (hpath : Path.IsFrom dry.base path) (bytes : Bytes)
    (hok : (real.write path bytes).2 = .ok ()) :
    Mirrors (dry.write path bytes).1 (real.write path bytes).1 := by
  obtain ⟨made, res, hm, ⟨entry, rfl, he, hd, hwrite⟩ | ⟨e, hwrite⟩⟩ :=
    write_cases h.isReal.dryRun path bytes
  · obtain ⟨hg, hfree⟩ := h.made hpath hm
    obtain ⟨rfl, hproper⟩ := entryOf_eq hg hfree hpath he
    have hin := inDirectory_of_entryOf he
    rw [hwrite, write_dry h.dryRun]
    exact h.strike hpath hm hin hd hproper (.put bytes) (fileAt_put hin.ne_nil bytes made)
  · rw [hwrite] at hok
    cases hok

theorem Mirrors.remove (h : Mirrors dry real) (hpath : Path.IsFrom dry.base path)
    (hok : (real.remove path).2 = .ok ()) :
    Mirrors (dry.remove path).1 (real.remove path).1 := by
  rcases remove_cases h.isReal.dryRun path with ⟨entry, node, he, hnode, hd, hremove⟩ | ⟨e, hremove⟩
  · obtain ⟨rfl, hproper⟩ := entryOf_eq h.groundedReal h.linkFreeReal hpath he
    have hin := inDirectory_of_entryOf he
    have hnd : real.tree.get? entry ≠ some .directory := by
      rw [hnode]
      simpa using hd
    have hgone : (real.tree.erase entry).fileAt entry = none := by
      rw [fileAt, get?_erase hin.ne_nil, if_pos rfl]
    have hm : real.tree.makeDirs entry.dropLast real.refusals = (real.tree, .ok ()) :=
      makeDirs_of_entry hpath.plain he
    rw [hremove, remove_dry h.dryRun]
    exact h.strike hpath hm hin hnd hproper .erase hgone
  · rw [hremove] at hok
    cases hok

/-- A copy is read from the source as both runs see it. -/
theorem Mirrors.copy (h : Mirrors dry real) (hpath : Path.IsFrom dry.base path)
    {source : Path} (hsource : Path.IsFrom dry.base source) (hne : source ≠ path) {mid : Session}
    (hok : real.changeIn path (copy source path) = (mid, .ok ())) :
    ∃ bytes, dry.file? source = some bytes ∧ Mirrors (dry.stage path (.written bytes)) mid := by
  obtain ⟨made, res, hm, ⟨entry, bytes, kept, out, rfl, hw, hread, hkeeping, hcopy⟩ | ⟨e, hcopy⟩⟩ :=
    real.copyIn_cases source path
  · obtain ⟨hg, hfree⟩ := h.made hpath hm
    obtain ⟨rfl, hproper⟩ := writeEntry_eq hg hfree hpath hw
    have hin := inDirectory_of_writeEntry hw
    have hpass := allows_of_linkFree h.groundedReal h.linkFreeReal hpath
    obtain ⟨-, hfile⟩ :=
      writeEntry_cases h.groundedReal.closed hpath.plain hpass hm h.groundedReal.directory hw
    have hd : made.get? entry ≠ some .directory := by
      intro hd
      obtain ⟨_, heq⟩ := hfile _ hd
      cases heq
    obtain ⟨hgrows, hclosed⟩ := grows_of_makeDirs h.groundedReal.closed hpath.plain hpass hm
    obtain ⟨-, hseen⟩ := Strikes.file?_eq h.groundedReal h.linkFreeReal hgrows hclosed hin hd
      (.put []) hproper
    rw [read_eq_ok, hseen source hsource, if_neg hne, ← h.view source hsource] at hread
    rw [hcopy] at hok
    cases hok
    obtain rfl : kept = bytes := hkeeping.eq_bytes
    exact ⟨kept, hread,
      h.strike hpath hm hin hd hproper (.put kept) (fileAt_put hin.ne_nil kept made)⟩
  · rw [hcopy] at hok
    cases hok

theorem Mirrors.move (h : Mirrors dry real) (hpath : Path.IsFrom dry.base path)
    {source : Path} (hsource : Path.IsFrom dry.base source) (hne : source ≠ path)
    (hok : (real.move source path).2 = .ok ()) :
    (dry.move source path).2 = .ok () ∧
      Mirrors (dry.move source path).1 (real.move source path).1 := by
  rcases move_cases h.isReal.dryRun source path with ⟨mid, e, hcopy, hmove⟩ | ⟨mid, hcopy, hmove⟩
  · rw [hmove] at hok
    cases hok
  · obtain ⟨bytes, hbytes, hmid⟩ := h.copy hpath hsource hne hcopy
    rw [hmove] at hok
    have hremove := hmid.remove hsource hok
    rw [remove_dry hmid.dryRun] at hremove
    rw [hmove, move_dry h.dryRun hbytes]
    exact ⟨rfl, hremove⟩

/-! ## Equal outcomes -/

/-- Either a file could not be changed in the real run, or the outcomes are equal and the
two stay in step. -/
def Agree (dry real : Session × Outcome) : Prop :=
  real.2.isWriteFault = true ∨ (dry.2 = real.2 ∧ Mirrors dry.1 real.1)

theorem agree_concluding {dryOp realOp : Session × Except FileError Unit} {failing : String}
    (hhead : ∃ head ∈ faultHeads, head.toList <+: failing.toList) (success : Outcome)
    (h : realOp.2 = .ok () → dryOp.2 = .ok () ∧ Mirrors dryOp.1 realOp.1) :
    Agree (concluding failing success dryOp) (concluding failing success realOp) := by
  obtain ⟨real, res⟩ := realOp
  obtain ⟨dry, dryRes⟩ := dryOp
  cases res with
  | error e =>
      obtain ⟨head, hmem, hhead⟩ := hhead
      exact .inl (Outcome.isWriteFault_of_head hmem hhead _)
  | ok u =>
      obtain ⟨hdry, hmirrors⟩ := h rfl
      simp only at hdry
      subst hdry
      exact .inr ⟨rfl, hmirrors⟩

theorem perform_agree (h : Mirrors dry real) (hpath : Path.IsFrom dry.base path)
    (action : Action) : Agree (dry.perform path action) (real.perform path action) := by
  have hview : ∀ p, Path.IsFrom dry.base p → dry.file? p = real.file? p := by
    intro p hp
    rw [h.isReal.file?_eq, h.view p hp]
  have hdeed : Deed.ofAction dry.file? dry.resolve path action =
      Deed.ofAction real.file? real.resolve path action := by
    rw [← h.resolve_eq]
    exact Deed.ofAction_congr (hview path hpath)
      fun written _ p _ hp => hview p (h.grounded.isFrom_of_resolve hp)
  have hfits := Deed.fits_ofAction dry.file? dry.resolve path action
  rw [perform_eq, perform_eq, ← hdeed]
  cases hcase : Deed.ofAction dry.file? dry.resolve path action with
  | leave outcome => exact .inr ⟨rfl, h⟩
  | save content failing message =>
      rw [hcase] at hfits
      have hhead : failing.toList <+: (failing ++ "File I/O error: ").toList := by
        rw [String.toList_append]
        exact List.prefix_append _ _
      refine agree_concluding ⟨failing, hfits, hhead⟩ _ fun hok => ⟨?_, h.write hpath _ hok⟩
      rw [write_dry h.dryRun]
  | delete =>
      refine agree_concluding ⟨_, by simp [faultHeads], List.prefix_refl _⟩ _ fun hok =>
        ⟨?_, h.remove hpath hok⟩
      rw [remove_dry h.dryRun]
  | move destination written =>
      rw [hcase] at hfits
      obtain ⟨-, hresolve, hne⟩ := hfits
      have hdest := h.grounded.isFrom_of_resolve hresolve
      exact agree_concluding ⟨_, by simp [faultHeads], List.prefix_refl _⟩ _ fun hok =>
        h.move hdest hpath (Ne.symm hne) hok

/-- A file patch has the same result in both runs, unless a file could not be changed in
the real one. -/
theorem execute_agree (h : Mirrors dry real) (patch : FilePatch) :
    (real.execute patch).2.outcome.isWriteFault = true ∨
      ((dry.execute patch).2 = (real.execute patch).2 ∧
        Mirrors (dry.execute patch).1 (real.execute patch).1) := by
  unfold execute
  cases hresolve : dry.resolve patch.path with
  | error e =>
      rw [← h.resolve_eq, hresolve]
      exact .inr ⟨rfl, h⟩
  | ok path =>
      rw [← h.resolve_eq, hresolve]
      have hpath := h.grounded.isFrom_of_resolve hresolve
      rcases perform_agree h hpath patch.action with hfault | ⟨heq, hstep⟩
      · exact .inl hfault
      · refine .inr ⟨?_, hstep⟩
        simp only [heq]

/-! ## Runs -/

/-- The first results are those of the first file patches. -/
theorem executeAll_take (s : Session) (patches : List FilePatch) (n : Nat) :
    (s.executeAll (patches.take n)).2 = (s.executeAll patches).2.take n := by
  induction patches generalizing s n with
  | nil => simp [executeAll]
  | cons patch rest ih =>
      cases n with
      | zero => rfl
      | succ n => simp [executeAll, ih]

/-- As long as files can be changed in the real run, all results are equal. -/
theorem executeAll_agree (h : Mirrors dry real) (patches : List FilePatch)
    (hno : ∀ result ∈ (real.executeAll patches).2, result.outcome.isWriteFault = false) :
    (dry.executeAll patches).2 = (real.executeAll patches).2 ∧
      Mirrors (dry.executeAll patches).1 (real.executeAll patches).1 := by
  induction patches generalizing dry real with
  | nil => exact ⟨rfl, h⟩
  | cons patch rest ih =>
      rcases execute_agree h patch with hfault | ⟨heq, hstep⟩
      · have hfirst := hno (real.execute patch).2 (by simp [executeAll])
        rw [hfault] at hfirst
        cases hfirst
      · obtain ⟨hrest, hlast⟩ := ih hstep fun result hmem => hno result (by simp [executeAll, hmem])
        refine ⟨?_, hlast⟩
        simp only [executeAll, heq, hrest]

/-- From a base without links, a dry run says of each file patch what a real run says, and
sees at each path what the tree of the real run holds there, for as long as each file can be
changed in the real run, whatever this is refused.  All the while it leaves its own tree
alone. -/
theorem dryRun_simulates {tree : FileTree} {base : Path} (hg : Grounded tree base)
    (hfree : LinkFree base tree) (patches : List FilePatch) (refusals : Refusals) :
    let dry : Session := { base, dryRun := true, tree }
    let real : Session := { base, dryRun := false, tree, refusals }
    (∀ i, (∀ j result, j ≤ i → (real.executeAll patches).2[j]? = some result →
          result.outcome.isWriteFault = false) →
        (dry.executeAll patches).2[i]? = (real.executeAll patches).2[i]? ∧
          ∀ path, Path.IsFrom base path →
            let seen := (dry.executeAll (patches.take (i + 1))).1.file? path
            let held := (real.executeAll (patches.take (i + 1))).1.tree
            seen = held.file? path ∧
              ((∀ n ∈ path, Path.isProper n = true) → seen = held.fileAt path)) ∧
      ∀ i, (dry.executeAll (patches.take i)).1.tree = tree := by
  intro dry real
  have hstart : Mirrors dry real :=
    ⟨rfl, rfl, ⟨rfl, fun _ => rfl⟩, hg, hfree, hg, hfree, fun _ _ => rfl⟩
  refine ⟨fun i hno => ?_, fun i => (executeAll_staging rfl _).tree_eq⟩
  have hprefix : ∀ result ∈ (real.executeAll (patches.take (i + 1))).2,
      result.outcome.isWriteFault = false := by
    intro result hmem
    rw [executeAll_take] at hmem
    obtain ⟨j, hj⟩ := List.mem_iff_getElem?.1 hmem
    rw [List.getElem?_take] at hj
    split at hj
    · next hlt => exact hno j result (by omega) hj
    · cases hj
  obtain ⟨hresults, hmirrors⟩ := executeAll_agree hstart _ hprefix
  rw [executeAll_take, executeAll_take] at hresults
  constructor
  · have hget := congrArg (fun results => results[i]?) hresults
    simpa using hget
  · intro path hpath seen held
    have hbase : (dry.executeAll (patches.take (i + 1))).1.base = base := by
      rw [executeAll_staging (s := dry) rfl]
    have hview : seen = held.file? path := hmirrors.view path (by rwa [hbase])
    refine ⟨hview, fun hproper => ?_⟩
    have hheld := hmirrors.groundedReal
    have hheldFree := hmirrors.linkFreeReal
    rw [hbase] at hheld hheldFree
    apply Option.ext
    intro bytes
    rw [hview, file?_eq_some_iff hheld hheldFree hpath]
    exact ⟨And.right, fun h => ⟨hproper, h⟩⟩

/-- A base `/w` with the file `/w/f`. -/
def oneFile : FileTree where
  entries := [([['w']], .directory), ([['w'], ['f']], .file [])]

/-- A file that is created, then moved over another one, leaves what a dry run shows. -/
theorem dryRun_simulates_oneFile :
    let patches : List FilePatch :=
      [⟨['n'], [], .createFile ['x']⟩, ⟨['n'], [], .moveFile ['f'] true⟩]
    Grounded oneFile [['w']] ∧ LinkFree [['w']] oneFile ∧
      (executeAll { base := [['w']], dryRun := true, tree := oneFile } patches).1.file?
        [['w'], ['f']] = (executeAll { base := [['w']], dryRun := false, tree := oneFile }
          patches).1.tree.fileAt [['w'], ['f']] := by
  intro patches
  have hg : Grounded oneFile [['w']] := ⟨closed_of_entries (by decide), rfl, rfl⟩
  have hfree : LinkFree [['w']] oneFile := linkFree_of_entries (by simp [oneFile])
  refine ⟨hg, hfree, ?_⟩
  have hno : ∀ result ∈ (executeAll { base := [['w']], dryRun := false, tree := oneFile }
      patches).2, result.outcome.isWriteFault = false := by decide
  have hrun := (dryRun_simulates hg hfree patches {}).1 1 fun j result _ hj =>
    hno result (List.mem_of_getElem? hj)
  have hpath : Path.IsFrom [['w']] [['w'], ['f']] := ⟨by decide, by decide⟩
  exact (hrun.2 _ hpath).2 (by decide)

end Session

end Emend
