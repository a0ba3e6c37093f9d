import Emend.Proofs.Run.Effect
import Emend.Proofs.Run.Reports
import Emend.Proofs.Workspace.Landing
/-!
# What a dry run sees of the file patches before

A dry run stages what a file patch would leave at the paths that it names.  The question is
whether it goes on as it would after the file patch has been carried out.

*Staged.*  At a path at which something is staged, a dry run sees what is found there after
the file patch has been carried out (`staged_found`), if this is a simple one (`Simple`).

*Not staged.*  At any other path it sees what was there before (`seesAlike_iff_of_unstaged`).
So it does not see the change at another path that leads to the same file, be it through a
link to the file or to a directory above it (`seesAlike_iff_of_alias`).
-/

namespace Emend

open FileTree

namespace Session

variable {s : Session} {first : FilePatch} {path : Path} {written : Text}

/-- The session as a dry run. -/
def trial (s : Session) : Session := { s with dryRun := true }

/-- A file patch is simple if its file is below the base and no link to a directory is in its
place, and if it does not move a file to itself. -/
structure Simple (s : Session) (patch : FilePatch) : Prop where
  /-- It does not act at a link outside the base. -/
  stays : ∀ path, s.resolve patch.path = .ok path → ¬ s.Strays path
  /-- Its path does not lead to a directory. -/
  file : ∀ path, s.resolve patch.path = .ok path → s.tree.isDirectory path = false
  /-- The destination of a move does not lead to the file that is moved. -/
  apart : ∀ written overwrite source destination, patch.action = .moveFile written overwrite →
    s.resolve patch.path = .ok source → s.resolve written = .ok destination →
      s.tree.canonical destination ≠ s.tree.canonical source

/-! ## The file patch itself -/

/-- What has been carried out with success ends as promised. -/
theorem carry_promised {deed : Deed} (hok : (s.carry path deed).2.status = .success) :
    (s.carry path deed).2 = deed.promised := by
  cases deed with
  | leave outcome => rfl
  | save content failing message | delete | move destination written =>
      exact congrArg Prod.snd (concluding_ok (ok_of_concluding hok) _ _)

/-- A file patch that can be carried out has the same result in a dry run. -/
theorem trial_execute (hok : (s.execute first).2.outcome.status = .success) :
    (s.trial.execute first).2 = (s.execute first).2 := by
  cases hresolve : s.resolve first.path with
  | error e => simp [execute, hresolve] at hok
  | ok path =>
      have hresolve' : s.trial.resolve first.path = .ok path := hresolve
      have htrial : (s.trial.perform path first.action).2 = (s.perform path first.action).2 := by
        simp only [execute, hresolve, perform_eq] at hok
        rw [perform_dry rfl, perform_eq, carry_promised hok]
        rfl
      simp only [execute, hresolve, hresolve', htrial]

/-- What a file patch has done that was carried out, in a real run and in a dry run. -/
inductive Done (s : Session) (patch : FilePatch) (path : Path) : Prop where
  /-- It wrote a file. -/
  | saved {content : Text} {failing message : String} :
    Deed.ofAction s.file? s.resolve path patch.action = .save content failing message →
    (s.write path (Utf8.encode content)).2 = .ok () →
    (s.execute patch).1 = (s.write path (Utf8.encode content)).1 →
    (s.trial.execute patch).1 = s.trial.stage path (.written (Utf8.encode content)) →
    Done s patch path
  /-- It removed a file. -/
  | deleted {bytes : Bytes} : patch.action = .deleteFile → s.tree.file? path = some bytes →
    (s.remove path).2 = .ok () → (s.execute patch).1 = (s.remove path).1 →
    (s.trial.execute patch).1 = s.trial.stage path .removed → Done s patch path
  /-- It moved a file. -/
  | moved {written : Text} {overwrite : Bool} {destination : Path} {bytes : Bytes} :
    patch.action = .moveFile written overwrite → s.resolve written = .ok destination →
    s.tree.file? path = some bytes → (s.move path destination).2 = .ok () →
    (s.execute patch).1 = (s.move path destination).1 →
    (s.trial.execute patch).1 =
      (s.trial.stage destination (.written bytes)).stage path .removed → Done s patch path

theorem execute_done (hreal : s.Real) (hresolve : s.resolve first.path = .ok path)
    (hok : (s.execute first).2.outcome.status = .success) : Done s first path := by
  obtain ⟨hsession, houtcome⟩ := execute_of_resolve hresolve
  obtain ⟨htrial, -⟩ := execute_of_resolve (s := s.trial) hresolve
  have hfits := Deed.fits_ofAction s.file? s.resolve path first.action
  have hsuits := Deed.suits_ofAction s.file? s.resolve path first.action
  have hdeed : Deed.ofAction s.trial.file? s.trial.resolve path first.action =
      Deed.ofAction s.file? s.resolve path first.action := rfl
  rw [houtcome] at hok
  rw [hdeed] at htrial
  cases hcase : Deed.ofAction s.file? s.resolve path first.action with
  | leave outcome =>
      rw [hcase] at hok hfits
      exact absurd hok hfits
  | save content failing message =>
      rw [hcase] at hok hsession htrial
      have hwrite := ok_of_concluding hok
      rw [carry, save, concluding_ok hwrite] at hsession
      rw [carry, save, write_dry (s := s.trial) rfl] at htrial
      exact .saved hcase hwrite hsession htrial
  | delete =>
      rw [hcase] at hok hsession htrial hsuits
      have hremove := ok_of_concluding hok
      rw [carry, concluding_ok hremove] at hsession
      rw [carry, remove_dry (s := s.trial) rfl] at htrial
      obtain ⟨bytes, hbytes⟩ := Option.isSome_iff_exists.1 (Deed.isSome_of_delete hcase)
      rw [hreal.file?_eq] at hbytes
      exact .deleted hsuits hbytes hremove hsession htrial
  | move destination written =>
      rw [hcase] at hok hsession htrial hfits hsuits
      obtain ⟨hseen, hdest, -⟩ := hfits
      obtain ⟨overwrite, haction⟩ := hsuits
      obtain ⟨bytes, hbytes⟩ := Option.isSome_iff_exists.1 hseen
      have hmove := ok_of_concluding hok
      rw [carry, concluding_ok hmove] at hsession
      rw [carry, move_dry (s := s.trial) rfl hbytes] at htrial
      rw [hreal.file?_eq] at hbytes
      exact .moved haction hdest hbytes hmove hsession htrial

/-- What is staged at a path has been staged there last, or somewhere else and before. -/
theorem staged_cases {target : Path} {what other : Staged}
    (h : (s.stage target what).staged path = some other) :
    (path = target ∧ other = what) ∨ s.staged path = some other := by
  by_cases heq : path = target
  · exact .inl ⟨heq, by simpa [stage, heq] using h.symm⟩
  · exact .inr (by simpa [stage, heq] using h)

section Real

variable (hreal : s.Real) (hg : Grounded s.tree s.base)
  (hok : (s.execute first).2.outcome.status = .success)

include hreal hg hok

/-! ## Where something is staged -/

/-- After a simple file patch, what is staged at a path is found there, and the guard lets
the path pass. -/
theorem staged_found (hsimple : s.Simple first) {what : Staged}
    (hstaged : (s.trial.execute first).1.staged path = some what) :
    let after := (s.execute first).1.tree
    after.file? path = what.bytes? ∧ Guard.Allows after s.base path := by
  intro after
  cases hresolve : s.resolve first.path with
  | error e => simp [execute, hresolve] at hok
  | ok target =>
  obtain ⟨hplain, hpass⟩ := hg.of_resolve hresolve
  have hstays := hsimple.stays target hresolve
  cases execute_done hreal hresolve hok with
  | saved _ hwrite hsession htrial =>
      rw [show after = _ from congrArg Session.tree hsession]
      rw [htrial] at hstaged
      rcases staged_cases hstaged with ⟨rfl, rfl⟩ | hbefore
      · exact write_lands hreal.dryRun hg hplain hpass hstays (hsimple.file path hresolve) hwrite
      · cases (hreal.staged path).symm.trans hbefore
  | deleted _ hbytes hremove hsession htrial =>
      rw [show after = _ from congrArg Session.tree hsession]
      rw [htrial] at hstaged
      rcases staged_cases hstaged with ⟨rfl, rfl⟩ | hbefore
      · exact remove_lands hreal.dryRun hg hplain hpass hstays hbytes hremove
      · cases (hreal.staged path).symm.trans hbefore
  | moved haction hdest hbytes hmove hsession htrial =>
      obtain ⟨hdplain, hdpass⟩ := hg.of_resolve hdest
      obtain ⟨hgone, hthere⟩ := move_lands hreal.dryRun hg hdplain hdpass hplain hpass hstays hbytes
        (hsimple.apart _ _ target _ haction hresolve hdest) hmove
      rw [show after = _ from congrArg Session.tree hsession]
      rw [htrial] at hstaged
      rcases staged_cases hstaged with ⟨rfl, rfl⟩ | hstaged
      · exact hgone
      rcases staged_cases hstaged with ⟨rfl, rfl⟩ | hbefore
      · exact hthere
      · cases (hreal.staged path).symm.trans hbefore

/-! ## What a dry run sees after it -/

omit hok in
/-- A dry run goes on to see alike at a path with one that starts after the file patch,
exactly if the guard still lets the path pass, and what is seen is read there. -/
theorem seesAlike_trial_iff (hresolve : s.resolve written = .ok path) :
    let dry := (s.trial.execute first).1
    let after := (s.execute first).1
    SeesAlike dry after.trial written ↔ Guard.Allows after.tree s.base path ∧
      Deed.reading dry.file? path = Deed.reading after.tree.file? path := by
  intro dry after
  have hran := execute_ran hreal hg first
  have hdry : dry.resolve = s.resolve := by
    rw [show dry = _ from execute_staging (s := s.trial) rfl first]
    rfl
  have hafter : after.trial.resolve written = .ok path ↔ Guard.Allows after.tree s.base path := by
    have hcongr : Guard.resolve after.tree s.base written = .ok path ↔
        path = path ∧ Guard.Allows after.tree s.base path := Guard.resolve_congr hresolve
    rw [resolve, show after.trial.base = s.base from hran.base_eq]
    exact hcongr.trans (and_iff_right rfl)
  have hfound : after.trial.file? = after.tree.file? :=
    funext fun p => (hran.real hreal).file?_eq p
  constructor
  · rintro ⟨hsame, hread⟩
    rw [hdry, hresolve] at hsame
    have hseen := hread path (by rw [hdry, hresolve])
    rw [hfound] at hseen
    exact ⟨hafter.1 hsame.symm, hseen⟩
  · rintro ⟨hpass, hseen⟩
    refine ⟨by rw [hdry, hresolve, hafter.2 hpass], fun p hp => ?_⟩
    rw [hdry, hresolve, Except.ok.injEq] at hp
    rw [hfound, ← hp]
    exact hseen

theorem seesAlike_of_staged (hresolve : s.resolve written = .ok path) (hsimple : s.Simple first)
    (hstaged : (s.trial.execute first).1.staged path ≠ none) :
    SeesAlike (s.trial.execute first).1 (s.execute first).1.trial written := by
  obtain ⟨what, hwhat⟩ := Option.ne_none_iff_exists'.1 hstaged
  obtain ⟨hfound, hpass⟩ := staged_found hreal hg hok hsimple hwhat
  refine (seesAlike_trial_iff hreal hg hresolve).2 ⟨hpass, ?_⟩
  have hseen : (s.trial.execute first).1.file? path = what.bytes? := by
    cases what <;> simp [file?, hwhat, Staged.bytes?]
  rw [Deed.reading, Deed.reading, hfound, hseen]

omit hok in
/-- Where nothing is staged, a dry run sees what was there before. -/
theorem seesAlike_iff_of_unstaged (hresolve : s.resolve written = .ok path)
    (hstaged : (s.trial.execute first).1.staged path = none) :
    let after := (s.execute first).1
    SeesAlike (s.trial.execute first).1 after.trial written ↔
      Guard.Allows after.tree s.base path ∧
        Deed.reading s.tree.file? path = Deed.reading after.tree.file? path := by
  intro after
  have hseen : (s.trial.execute first).1.file? path = s.tree.file? path := by
    rw [file?, hstaged, (execute_staging (s := s.trial) rfl first).tree_eq]
    rfl
  have hreading : Deed.reading (s.trial.execute first).1.file? path =
      Deed.reading s.tree.file? path := by
    rw [Deed.reading, hseen, Deed.reading]
  exact hreading ▸ seesAlike_trial_iff hreal hg hresolve

/-! ## Other paths to the same file -/

section Other

variable (hresolve : s.resolve written = .ok path)
  (hstaged : (s.trial.execute first).1.staged path = none)

include hresolve hstaged

omit hok in
/-- Where nothing is found any more, a dry run still sees the file. -/
theorem not_seesAlike_of_gone {bytes : Bytes} (hbefore : s.tree.file? path = some bytes)
    (hnone : (s.execute first).1.tree.file? path = none) :
    ¬ SeesAlike (s.trial.execute first).1 (s.execute first).1.trial written := by
  intro halike
  have hread := ((seesAlike_iff_of_unstaged hreal hg hresolve hstaged).1 halike).2
  rw [Deed.reading, Deed.reading, hnone, hbefore] at hread
  cases hread

omit hok in
/-- Where a file holds another text, a dry run still sees the one before. -/
theorem seesAlike_iff_of_written {file : Path} {content : Text}
    (hother : s.tree.canonical path = .ok file)
    (hstill : (s.execute first).1.tree.canonical path = .ok file)
    (hfound : (s.execute first).1.tree.file? path = some (Utf8.encode content)) :
    SeesAlike (s.trial.execute first).1 (s.execute first).1.trial written ↔
      Deed.reading s.tree.file? path = some (.ok content) := by
  have hallows := (Guard.allows_iff hstill).2 ((Guard.allows_iff hother).1
    (hg.of_resolve hresolve).2)
  have hnew := Deed.reading_of_encode hfound
  exact (seesAlike_iff_of_unstaged hreal hg hresolve hstaged).trans
    ((and_iff_right hallows).trans (by rw [hnew]))

/-- A dry run sees a simple file patch at another path to the same file only if the file is
replaced by the text that is read in it. -/
theorem seesAlike_iff_of_alias (hsimple : s.Simple first) {target file : Path}
    (htarget : s.resolve first.path = .ok target) (he : s.tree.entryOf target = .ok file)
    (hleads : s.tree.canonical target = .ok file) (hother : s.tree.canonical path = .ok file) :
    SeesAlike (s.trial.execute first).1 (s.execute first).1.trial written ↔
      ∃ content, first.action = .replaceFile content ∧
        Deed.reading s.tree.file? target = some (.ok content) := by
  obtain ⟨hplain, -⟩ := hg.of_resolve htarget
  obtain ⟨before, hheld⟩ := file_of_canonical hleads (hsimple.file target htarget)
  have hbefore := file?_eq_some.2 ⟨file, hother, hheld⟩
  have hsame : Deed.reading s.tree.file? path = Deed.reading s.tree.file? target := by
    rw [Deed.reading, Deed.reading, hbefore, file?_eq_some.2 ⟨file, hleads, hheld⟩]
  cases execute_done hreal htarget hok with
  | @saved content _ _ hdeed hwrite hsession _ =>
      obtain ⟨hstill, hfound⟩ := write_other hreal.dryRun hplain he hheld hother hwrite
      rw [← hsession] at hstill hfound
      rw [seesAlike_iff_of_written hreal hg hresolve hstaged hother hstill hfound, hsame]
      have hseen : Deed.reading s.file? target = Deed.reading s.tree.file? target := by
        rw [Deed.reading, hreal.file?_eq, Deed.reading]
      constructor
      · exact fun hread => ⟨content, Deed.eq_replaceFile_of_save hdeed (hseen.trans hread), hread⟩
      · rintro ⟨content', haction, hread⟩
        rw [haction, Deed.ofAction] at hdeed
        split at hdeed
        · cases hdeed
          exact hread
        · cases hdeed
  | deleted haction _ hremove hsession _ =>
      have hnone := remove_other hreal.dryRun he hheld hother hremove
      rw [← hsession] at hnone
      refine iff_of_false (not_seesAlike_of_gone hreal hg hresolve hstaged hbefore hnone) ?_
      rintro ⟨content, hreplace, -⟩
      rw [haction] at hreplace
      cases hreplace
  | moved haction hdest _ hmove hsession _ =>
      obtain ⟨hdplain, hdpass⟩ := hg.of_resolve hdest
      have hnone := move_other hreal.dryRun hplain he hheld hother hg hdplain hdpass hleads
        (hsimple.apart _ _ target _ haction htarget hdest) hmove
      rw [← hsession] at hnone
      refine iff_of_false (not_seesAlike_of_gone hreal hg hresolve hstaged hbefore hnone) ?_
      rintro ⟨content, hreplace, -⟩
      rw [haction] at hreplace
      cases hreplace

end Other

/-- After a file patch that can be carried out, and that has the same result in a dry run, the
dry run reports the same of all that follows at a path as one that starts anew, exactly if the
two see alike there.  They do where something is staged, if the file patch is a simple one.
Elsewhere they do exactly if the guard still lets the path pass and the same is read there as
before; so at a path to the file of the file patch they do not, unless this replaces the text
of the file by itself. -/
theorem overlay_coherent_iff (hresolve : s.resolve written = .ok path) :
    let dry := (s.trial.execute first).1
    let after := (s.execute first).1
    (s.trial.execute first).2 = (s.execute first).2 ∧
      ((∀ next : FilePatch, written ∈ next.names →
          (∀ w ∈ next.names, w ≠ written → SeesAlike dry after.trial w) →
            (dry.execute next).2.outcome.report = (after.trial.execute next).2.outcome.report) ↔
        SeesAlike dry after.trial written) ∧
      (dry.staged path ≠ none → s.Simple first → SeesAlike dry after.trial written) ∧
      (dry.staged path = none →
        (SeesAlike dry after.trial written ↔ Guard.Allows after.tree s.base path ∧
          Deed.reading s.tree.file? path = Deed.reading after.tree.file? path) ∧
        ∀ target file, s.Simple first → s.resolve first.path = .ok target →
          s.tree.entryOf target = .ok file → s.tree.canonical target = .ok file →
            s.tree.canonical path = .ok file →
              (SeesAlike dry after.trial written ↔ ∃ content,
                first.action = .replaceFile content ∧
                  Deed.reading s.tree.file? target = some (.ok content))) := by
  intro dry after
  have hstaging : Staging s.trial dry := execute_staging rfl first
  have hdry : dry.resolve written = .ok path := by
    rw [hstaging]
    exact hresolve
  have hbase : after.trial.base = dry.base := by
    rw [hstaging]
    exact (execute_ran hreal hg first).base_eq
  refine ⟨trial_execute hok, (seesAlike_iff hstaging.dryRun_eq rfl hbase hdry).symm, ?_, ?_⟩
  · exact fun hstaged hsimple => seesAlike_of_staged hreal hg hok hresolve hsimple hstaged
  · intro hstaged
    refine ⟨seesAlike_iff_of_unstaged hreal hg hresolve hstaged, ?_⟩
    intro target file hsimple htarget he hleads hother
    exact seesAlike_iff_of_alias hreal hg hok hresolve hstaged hsimple htarget he hleads hother

end Real

/-- A base `/w` with the file `/w/d/f` and a link to its directory. -/
def linkedDirectory : FileTree where
  entries := [([['w']], .directory), ([['w'], ['d']], .directory),
    ([['w'], ['d'], ['f']], .file [120]), ([['w'], ['l']], .link ['d'])]

theorem linkedDirectory_grounded : Grounded linkedDirectory [['w']] :=
  ⟨closed_of_entries (by decide), rfl, rfl⟩

/-- After the file patch that deletes `l/f`, a dry run sees at `l/f` that the file is gone, and
at `d/f` it does not. -/
theorem overlay_coherent_linkedDirectory :
    let first : FilePatch := ⟨"l/f".toList, [], .deleteFile⟩
    let dry := ((runIn linkedDirectory).trial.execute first).1
    let after := ((runIn linkedDirectory).execute first).1
    Grounded linkedDirectory [['w']] ∧
      ((runIn linkedDirectory).execute first).2.outcome.status = .success ∧
      SeesAlike dry after.trial "l/f".toList ∧
      ¬ ∀ next : FilePatch, "d/f".toList ∈ next.names →
        (∀ w ∈ next.names, w ≠ "d/f".toList → SeesAlike dry after.trial w) →
          (dry.execute next).2.outcome.report = (after.trial.execute next).2.outcome.report := by
  intro first dry after
  have hok : ((runIn linkedDirectory).execute first).2.outcome.status = .success := by decide
  have htarget : (runIn linkedDirectory).resolve "l/f".toList = .ok [['w'], ['l'], ['f']] := by
    decide
  have hother : (runIn linkedDirectory).resolve "d/f".toList = .ok [['w'], ['d'], ['f']] := by
    decide
  have hsimple : (runIn linkedDirectory).Simple first := by
    refine ⟨fun path hpath => ?_, fun path hpath => ?_, fun _ _ _ _ haction => by cases haction⟩
    · obtain rfl := Except.ok.inj (htarget.symm.trans hpath)
      rintro ⟨entry, target, he, -, hlink⟩
      have hentry : (runIn linkedDirectory).tree.entryOf [['w'], ['l'], ['f']] =
          .ok [['w'], ['d'], ['f']] := by decide
      obtain rfl := Except.ok.inj (hentry.symm.trans he)
      revert hlink
      simp [runIn, linkedDirectory, get?]
    · obtain rfl := Except.ok.inj (htarget.symm.trans hpath)
      decide
  obtain ⟨-, -, hstaged, -⟩ := overlay_coherent_iff (runIn_real linkedDirectory)
    linkedDirectory_grounded hok htarget
  obtain ⟨-, hreports, -, hunstaged⟩ := overlay_coherent_iff (runIn_real linkedDirectory)
    linkedDirectory_grounded hok hother
  refine ⟨linkedDirectory_grounded, hok, hstaged (by decide) hsimple, fun h => ?_⟩
  obtain ⟨content, haction, -⟩ := ((hunstaged (by decide)).2 _ [['w'], ['d'], ['f']] hsimple htarget
    (by decide) (by decide) (by decide)).1 (hreports.1 h)
  cases haction

/-- Two paths lead to the file `d/f`.  After a dry run has deleted the file by one of them, it
says of its deletion by the other one that it is done, and not that there is no file. -/
theorem deleted_twice :
    let first : FilePatch := ⟨"l/f".toList, [], .deleteFile⟩
    let next : FilePatch := ⟨"d/f".toList, [], .deleteFile⟩
    let dry := ((runIn linkedDirectory).trial.execute first).1
    let after := ((runIn linkedDirectory).execute first).1
    Grounded linkedDirectory [['w']] ∧
      linkedDirectory.canonical [['w'], ['l'], ['f']] =
        linkedDirectory.canonical [['w'], ['d'], ['f']] ∧
      ((runIn linkedDirectory).trial.execute first).2.outcome.report =
        (.success, "Deleted file") ∧
      ((runIn linkedDirectory).execute first).2.outcome.report = (.success, "Deleted file") ∧
      (dry.execute next).2.outcome.report = (.success, "Deleted file") ∧
      (after.trial.execute next).2.outcome.report = (.skipped, "File does not exist") ∧
      (after.execute next).2.outcome.report = (.skipped, "File does not exist") := by
  intro first next dry after
  exact ⟨linkedDirectory_grounded, by decide, by decide, by decide, by decide, by decide, by decide⟩

end Session

end Emend
