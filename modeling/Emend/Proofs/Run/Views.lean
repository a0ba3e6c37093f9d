import Emend.Proofs.Run.Independent
import Emend.Proofs.Run.Requests
/-!
# What a file patch changes of what is seen

Later file patches see the files of a session, staged or in its tree.  `Shows` says what a file
patch changes of the file at a path: nothing if it is not carried out or does not name the path,
and what it has written is found where it was written.

A dry run shows this at every path (`execute_shows_dry`).  In a base without links a real run sees
what a dry run sees, so it shows the same (`execute_shows`), and the next file patch finds a base
without links again (`execute_clear`).  So a file stays as it is for as long as no file patch that
is carried out names its path (`file?_before`).
-/

namespace Emend

open FileTree

namespace Deed

variable {file? : Path → Option Bytes} {resolve : Text → Except GuardError Path} {path : Path}

theorem newContent_of_leave {action : Action} {outcome : Outcome}
    (h : ofAction file? resolve path action = .leave outcome) : outcome.newContent = none := by
  have hedit : ∀ {pattern options change},
      ofEdit file? path pattern options change = .leave outcome → outcome.newContent = none := by
    intro pattern options change hedit
    unfold ofEdit at hedit
    repeat' split at hedit
    all_goals cases hedit <;> rfl
  cases action with
  | replace | insertBefore | insertAfter | delete => exact hedit h
  | createFile | replaceFile | deleteFile | moveFile =>
      simp only [ofAction, ofMove] at h
      repeat' split at h
      all_goals cases h <;> rfl

end Deed

namespace Session

variable {s s' : Session} {patch : FilePatch} {path : Path}

/-- What a file patch that ends in a session changes of the file that is seen at a path. -/
structure Shows (s s' : Session) (patch : FilePatch) (outcome : Outcome) (path : Path) : Prop where
  /-- Nothing, if it is not carried out. -/
  kept : outcome.status ≠ .success → s'.file? path = s.file? path
  /-- Nothing, if it does not name the path. -/
  apart : path ∉ s.paths patch → s'.file? path = s.file? path
  /-- What it has written is found where it was written. -/
  written : ∀ t, outcome.newContent = some t → s.resolve patch.path = .ok path →
    s'.file? path = some (Utf8.encode t)

/-! ## One file patch -/

/-- What has a new content has been carried out. -/
theorem success_of_newContent {t : Text}
    (h : (s.execute patch).2.outcome.newContent = some t) :
    (s.execute patch).2.outcome.status = .success := by
  cases hresolve : s.resolve patch.path with
  | error e => simp [execute, hresolve] at h
  | ok path =>
      obtain ⟨-, houtcome⟩ := execute_of_resolve hresolve
      have hconcluding : ∀ {op failing} {success : Outcome}, success.status = .success →
          (concluding failing success op).2.newContent = some t →
            (concluding failing success op).2.status = .success := by
        rintro ⟨op, res⟩ failing success hsuccess hnew
        cases res with
        | ok u => exact hsuccess
        | error e => cases hnew
      rw [houtcome] at h ⊢
      cases hdeed : Deed.ofAction s.file? s.resolve path patch.action with
      | leave outcome =>
          rw [hdeed] at h
          cases (Deed.newContent_of_leave hdeed).symm.trans h
      | save content failing message | delete | move destination written =>
          rw [hdeed] at h
          exact hconcluding rfl h

/-- What a dry run stages is all that it shows. -/
theorem execute_shows_dry (hdry : s.dryRun = true) (patch : FilePatch) (path : Path) :
    Shows s (s.execute patch).1 patch (s.execute patch).2.outcome path := by
  cases hresolve : s.resolve patch.path with
  | error e =>
      have hexecute : s.execute patch = (s, (s.execute patch).2) := by simp [execute, hresolve]
      rw [hexecute]
      refine ⟨fun _ => rfl, fun _ => rfl, fun t _ hplace => ?_⟩
      cases hresolve.symm.trans hplace
  | ok place =>
  have hmem := mem_paths_of_path hresolve
  have hne : path ∉ s.paths patch → path ≠ place := fun h heq => h (heq ▸ hmem)
  have hfits := Deed.fits_ofAction s.file? s.resolve place patch.action
  obtain ⟨hsession, houtcome⟩ := execute_of_resolve hresolve
  rw [hsession, houtcome]
  cases hdeed : Deed.ofAction s.file? s.resolve place patch.action with
  | leave outcome =>
      refine ⟨fun _ => rfl, fun _ => rfl, fun t ht _ => ?_⟩
      cases (Deed.newContent_of_leave hdeed).symm.trans ht
  | save content failing message =>
      rw [carry, save, write_dry hdry]
      refine ⟨fun hfail => absurd rfl hfail, fun h => file?_stage_of_ne s _ (hne h), ?_⟩
      intro t ht hpath
      cases ht
      obtain rfl := Except.ok.inj (hresolve.symm.trans hpath)
      exact file?_stage_self s place _
  | delete =>
      rw [carry, remove_dry hdry]
      exact ⟨fun hfail => absurd rfl hfail, fun h => file?_stage_of_ne s _ (hne h),
        fun t ht _ => by cases ht⟩
  | move destination written =>
      rw [hdeed] at hfits
      obtain ⟨hseen, hdest, -⟩ := hfits
      obtain ⟨bytes, hbytes⟩ := Option.isSome_iff_exists.1 hseen
      obtain ⟨overwrite, haction⟩ : ∃ overwrite, patch.action = .moveFile written overwrite := by
        have hsuits := Deed.suits_ofAction s.file? s.resolve place patch.action
        rwa [hdeed] at hsuits
      have hmemDest := mem_paths_of_destination haction hdest
      rw [carry, move_dry hdry hbytes]
      refine ⟨fun hfail => absurd rfl hfail, fun h => ?_, fun t ht _ => by cases ht⟩
      have hneDest : path ≠ destination := fun heq => h (heq ▸ hmemDest)
      exact (file?_stage_of_ne _ _ (hne h)).trans (file?_stage_of_ne _ _ hneDest)

/-! ## Runs in a base without links -/

/-- A run in a base without links: a dry run, or a real one, which may be refused to write
but neither to copy nor to remove. -/
structure Clear (s : Session) : Prop where
  /-- The base is one, and there is no link below it. -/
  bare : Bare s.base s.tree
  /-- What is staged in a real run is nothing. -/
  run : s.dryRun = true ∨ s.Real
  /-- No copy is refused. -/
  copies : ∀ tree source path, s.refusals.copyFile tree source path = none
  /-- No removal is refused. -/
  removals : ∀ tree path, s.refusals.remove tree path = none

/-- The two ways of a run start from the same files. -/
theorem clear_start {base : Path} {tree : FileTree} (h : Bare base tree) (dryRun : Bool) :
    Clear { base, dryRun, tree } := by
  refine ⟨h, ?_, fun _ _ _ => rfl, fun _ _ => rfl⟩
  cases dryRun with
  | true => exact .inl rfl
  | false => exact .inr ⟨rfl, fun _ => rfl⟩

/-- A real run is in step with the dry run from where it is. -/
theorem mirrors_trial (h : Bare s.base s.tree) (hreal : s.Real) :
    Mirrors { s with dryRun := true } s :=
  ⟨rfl, rfl, hreal, h.grounded, h.linkFree, h.grounded, h.linkFree, fun path _ =>
    hreal.file?_eq path⟩

theorem execute_shows (h : s.Clear) (patch : FilePatch) (hpath : Path.IsFrom s.base path) :
    Shows s (s.execute patch).1 patch (s.execute patch).2.outcome path := by
  rcases h.run with hdry | hreal
  · exact execute_shows_dry hdry patch path
  have hg := h.bare.grounded
  by_cases hok : (s.execute patch).2.outcome.status = .success
  · have hno : (s.execute patch).2.outcome.isWriteFault = false := by
      simp [Outcome.isWriteFault, hok]
    obtain ⟨hsame, hmirrors⟩ :=
      (execute_agree (mirrors_trial h.bare hreal) patch).resolve_left (by simp [hno])
    have hshows := execute_shows_dry (s := { s with dryRun := true }) rfl patch path
    have hbase : (Session.execute { s with dryRun := true } patch).1.base = s.base := by
      rw [← hmirrors.base_eq, (execute_ran hreal hg patch).base_eq]
    have hview : (s.execute patch).1.file? path =
        (Session.execute { s with dryRun := true } patch).1.file? path := by
      rw [hmirrors.isReal.file?_eq]
      exact (hmirrors.view path (by rwa [hbase])).symm
    rw [hsame] at hshows
    exact ⟨fun hfail => absurd hok hfail, fun hapart => hview.trans (hshows.apart hapart),
      fun t ht hresolve => hview.trans (hshows.written t ht hresolve)⟩
  · have hran := execute_ran hreal hg patch
    have huntouched := (execute_failed hreal hg patch hok).resolve_right
      (not_copyLeft h.copies h.removals patch _ _)
    have hkept : (s.execute patch).1.file? path = s.file? path := by
      rw [(hran.real hreal).file?_eq, hreal.file?_eq]
      exact file?_congr hg h.bare.linkFree hran.tame hpath fun bytes =>
        huntouched.files path (.file bytes) (by simp)
    exact ⟨fun _ => hkept, fun _ => hkept, fun t ht _ => absurd (success_of_newContent ht) hok⟩

theorem execute_clear (h : s.Clear) (patch : FilePatch) :
    (s.execute patch).1.Clear ∧ (s.execute patch).1.base = s.base := by
  rcases h.run with hdry | hreal
  · have hstaging := execute_staging hdry patch
    have hbase : (s.execute patch).1.base = s.base := by rw [hstaging]
    have hsame : (s.execute patch).1.refusals = s.refusals := by rw [hstaging]
    refine ⟨⟨?_, .inl (hstaging.dryRun_eq.trans hdry), hsame ▸ h.copies, hsame ▸ h.removals⟩, hbase⟩
    rw [hbase, hstaging.tree_eq]
    exact h.bare
  · have hran := execute_ran hreal h.bare.grounded patch
    have hsame : (s.execute patch).1.refusals = s.refusals := by rw [hran.frame]
    refine ⟨⟨?_, .inr (hran.real hreal), hsame ▸ h.copies, hsame ▸ h.removals⟩, hran.base_eq⟩
    rw [hran.base_eq]
    exact h.bare.tame hran.tame

/-! ## Runs -/

/-- The session before file patch `n` of a document, counted from zero. -/
def before (s : Session) (patches : List FilePatch) (n : Nat) : Session :=
  (s.executeAll (patches.take n)).1

variable {patches : List FilePatch}

theorem executeAll_concat (s : Session) (patches : List FilePatch) (patch : FilePatch) :
    (s.executeAll (patches ++ [patch])).1 = ((s.executeAll patches).1.execute patch).1 := by
  induction patches generalizing s with
  | nil => rfl
  | cons first rest ih => exact ih (s.execute first).1

theorem before_succ {n : Nat} (h : patches[n]? = some patch) :
    s.before patches (n + 1) = ((s.before patches n).execute patch).1 := by
  obtain ⟨hn, rfl⟩ := List.getElem?_eq_some_iff.1 h
  rw [before, List.take_succ_eq_append_getElem hn, executeAll_concat, before]

theorem before_clear (h : s.Clear) (patches : List FilePatch) (n : Nat) :
    (s.before patches n).Clear ∧ (s.before patches n).base = s.base := by
  induction n with
  | zero => exact ⟨h, rfl⟩
  | succ n ih =>
      obtain ⟨hclear, hbase⟩ := ih
      cases hpatch : patches[n]? with
      | none =>
          have hlength := List.getElem?_eq_none_iff.1 hpatch
          rw [before, List.take_of_length_le (Nat.le_succ_of_le hlength),
            ← List.take_of_length_le hlength]
          exact ⟨hclear, hbase⟩
      | some patch =>
          obtain ⟨hnext, hsame⟩ := execute_clear hclear patch
          rw [before_succ hpatch]
          exact ⟨hnext, hsame.trans hbase⟩

/-- Written paths stand for the same throughout a run. -/
theorem before_resolve (h : s.Clear) (patches : List FilePatch) (n : Nat) :
    (s.before patches n).resolve = s.resolve := by
  obtain ⟨hclear, hbase⟩ := before_clear h patches n
  have hbare := hclear.bare
  rw [hbase] at hbare
  funext written
  rw [resolve, resolve, hbase]
  exact resolve_eq hbare.grounded hbare.linkFree h.bare.grounded h.bare.linkFree written

theorem before_paths (h : s.Clear) (patches : List FilePatch) (n : Nat) (patch : FilePatch) :
    (s.before patches n).paths patch = s.paths patch := by
  rw [paths, before_resolve h, paths]

/-- A file stays as it is for as long as no file patch that is carried out names its path. -/
theorem file?_before (h : s.Clear) (hpath : Path.IsFrom s.base path) {n m : Nat} (hnm : n ≤ m)
    (hkeep : ∀ j patch result, n ≤ j → j < m → patches[j]? = some patch →
      (s.executeAll patches).2[j]? = some result → result.outcome.status = .success →
        path ∉ s.paths patch) :
    (s.before patches m).file? path = (s.before patches n).file? path := by
  induction m, hnm using Nat.le_induction with
  | base => rfl
  | succ m hnm ih =>
      have hrest := ih fun j patch result hj hjm => hkeep j patch result hj (Nat.lt_succ_of_lt hjm)
      rw [← hrest]
      cases hpatch : patches[m]? with
      | none =>
          have hall := List.getElem?_eq_none_iff.1 hpatch
          rw [before, before, List.take_of_length_le (Nat.le_succ_of_le hall),
            List.take_of_length_le hall]
      | some patch =>
          obtain ⟨hclear, hbase⟩ := before_clear h patches m
          have hfrom : Path.IsFrom (s.before patches m).base path := by rwa [hbase]
          have hshows := execute_shows hclear patch hfrom
          have hresult := executeAll_getElem? s patches m
          rw [hpatch, Option.map_some] at hresult
          rw [before_succ hpatch]
          by_cases hok : ((s.before patches m).execute patch).2.outcome.status = .success
          · refine hshows.apart ?_
            rw [before_paths h]
            exact hkeep m patch _ hnm (Nat.lt_succ_self m) hpatch hresult hok
          · exact hshows.kept hok

end Session

end Emend
