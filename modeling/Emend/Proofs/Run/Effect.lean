import Emend.Proofs.Run.DryRun
import Emend.Proofs.Workspace.Transfer
/-!
# The effect of a file patch

`Effect` lists all that a file patch of a real run can come to, with what it does to the
tree and what its outcome says of it; `execute_effect` is the one look at all actions and
all their ways out.

*Not carried out.*  However far it got, files and links are as they were, and all that may
be new are directories on the way to the path that was to be written.  This is so whatever
the reason, but for one: if a move is refused to go on when bytes have been copied, then the
copy stays, be it whole or broken off (`CopyLeft`).

*Carried out.*  But for directories on the way to the path, an action other than a move
changes what is at the entry of the path: nothing after a removal, and else a file with
the new content (`execute_frame`).  That is a change each time but one: a file that is
replaced as a whole may have held the same before (`execute_unframed`).

*Moved.*  A move does what `Moves` says (`execute_moves`).  It keeps what it moves unless it
copies through a link, or a file to itself (`move_to_itself`).
-/

namespace Emend

open FileTree

/-- The written path that a file patch writes to. -/
def FilePatch.written (patch : FilePatch) : Text :=
  match patch.action with
  | .moveFile destination _ => destination
  | _ => patch.path

namespace Deed

variable {file? : Path → Option Bytes} {resolve : Text → Except GuardError Path} {path : Path}

/-! ## Deeds and their actions -/

/-- What an action is that has a given deed.  Only one that replaces the file as a whole may
save what was found. -/
def Suits (file? : Path → Option Bytes) (path : Path) (action : Action) : Deed → Prop
  | leave _ => True
  | save content _ _ =>
    action ≠ .deleteFile ∧ (∀ destination overwrite, action ≠ .moveFile destination overwrite) ∧
      (action = .replaceFile content ∨
        (∀ other, action ≠ .replaceFile other) ∧ file? path ≠ some (Utf8.encode content))
  | delete => action = .deleteFile
  | move _ written => ∃ overwrite, action = .moveFile written overwrite

/-- An edit saves a text that was not found. -/
theorem ofEdit_eq_save {pattern content : Text} {options : MatchOptions} {change : Change}
    {failing message : String}
    (h : ofEdit file? path pattern options change = save content failing message) :
    reading file? path ≠ some (.ok content) := by
  unfold ofEdit at h
  split at h
  · cases h
  next bytes hbytes =>
  split at h
  · cases h
  next old hold =>
  split at h
  · cases h
  · cases h
  next after summary hplan =>
  split at h
  · cases h
  next hne =>
  cases h
  intro hsame
  rw [reading_eq_ok.2 ⟨bytes, hbytes, hold⟩, Option.some.injEq, Except.ok.injEq] at hsame
  exact hne hsame.symm

theorem suits_ofEdit {action : Action} (hdelete : action ≠ .deleteFile)
    (hmove : ∀ destination overwrite, action ≠ .moveFile destination overwrite)
    (hreplace : ∀ other, action ≠ .replaceFile other) (pattern : Text) (options : MatchOptions)
    (change : Change) : Suits file? path action (ofEdit file? path pattern options change) := by
  cases h : ofEdit file? path pattern options change with
  | leave outcome => trivial
  | save content failing message =>
      exact ⟨hdelete, hmove,
        .inr ⟨hreplace, fun hsame => ofEdit_eq_save h (reading_of_encode hsame)⟩⟩
  | delete | move destination written =>
      unfold ofEdit at h
      repeat' split at h
      all_goals cases h

theorem suits_ofAction (file? : Path → Option Bytes) (resolve : Text → Except GuardError Path)
    (path : Path) (action : Action) :
    Suits file? path action (ofAction file? resolve path action) := by
  cases action with
  | replace find replacement options => exact suits_ofEdit (by simp) (by simp) (by simp) _ _ _
  | insertBefore marker content options =>
      exact suits_ofEdit (by simp) (by simp) (by simp) _ _ _
  | insertAfter marker content options =>
      exact suits_ofEdit (by simp) (by simp) (by simp) _ _ _
  | delete find options => exact suits_ofEdit (by simp) (by simp) (by simp) _ _ _
  | createFile content =>
      rw [ofAction]
      split
      · trivial
      · next hnone =>
        refine ⟨by simp, by simp, .inr ⟨by simp, fun hsome => hnone ?_⟩⟩
        rw [hsome]
        rfl
  | replaceFile content =>
      rw [ofAction]
      split
      · exact ⟨by simp, by simp, .inl rfl⟩
      · trivial
  | deleteFile =>
      rw [ofAction]
      split
      · rfl
      · trivial
  | moveFile written overwrite =>
      rw [ofAction, ofMove]
      split
      · split
        · trivial
        · split
          · trivial
          · split
            · trivial
            · exact ⟨overwrite, rfl⟩
      · trivial

variable {action : Action}

/-- Only what is seen is deleted. -/
theorem isSome_of_delete (h : ofAction file? resolve path action = .delete) :
    (file? path).isSome := by
  have hsuits := suits_ofAction file? resolve path action
  rw [h] at hsuits
  obtain rfl : action = .deleteFile := hsuits
  rw [ofAction] at h
  split at h
  · assumption
  · cases h

/-- Only a file that is replaced as a whole may get the text that is read in it. -/
theorem eq_replaceFile_of_save {content : Text} {failing message : String}
    (h : ofAction file? resolve path action = .save content failing message)
    (hread : reading file? path = some (.ok content)) : action = .replaceFile content := by
  have hsuits := suits_ofAction file? resolve path action
  rw [h] at hsuits
  obtain ⟨hdelete, hmove, rfl | ⟨hreplace, -⟩⟩ := hsuits
  · rfl
  cases action with
  | replace | insertBefore | insertAfter | delete => exact absurd hread (ofEdit_eq_save h)
  | createFile content' =>
      obtain ⟨bytes, hbytes, -⟩ := reading_eq_ok.1 hread
      rw [ofAction, hbytes] at h
      cases h
  | replaceFile content' => exact absurd rfl (hreplace content')
  | deleteFile => exact absurd rfl hdelete
  | moveFile written overwrite => exact absurd rfl (hmove written overwrite)

end Deed

namespace Session

variable {s : Session}

/-! ## Outcomes -/

/-- What has been concluded with success was done. -/
theorem ok_of_concluding {op : Session × Except FileError Unit} {failing : String}
    {success : Outcome} (h : (concluding failing success op).2.status = .success) :
    op.2 = .ok () := by
  obtain ⟨op, res⟩ := op
  cases res with
  | ok u => rfl
  | error e => cases h

theorem concluding_ok {op : Session × Except FileError Unit} (h : op.2 = .ok ()) (failing : String)
    (success : Outcome) : concluding failing success op = (op.1, success) := by
  obtain ⟨op, res⟩ := op
  subst h
  rfl

theorem concluding_error {op : Session × Except FileError Unit} {e : FileError}
    (h : op.2 = .error e) (failing : String) (success : Outcome) :
    concluding failing success op = (op.1, ⟨.failed, failing ++ e.message, none⟩) := by
  obtain ⟨op, res⟩ := op
  subst h
  rfl

/-- A file patch whose path passes does the deed of its action. -/
theorem execute_of_resolve {patch : FilePatch} {path : Path}
    (h : s.resolve patch.path = .ok path) :
    let carried := s.carry path (.ofAction s.file? s.resolve path patch.action)
    (s.execute patch).1 = carried.1 ∧ (s.execute patch).2.outcome = carried.2 := by
  intro carried
  unfold execute
  rw [h]
  simp only [perform_eq]
  exact ⟨rfl, rfl⟩

theorem written_eq {patch : FilePatch}
    (h : ∀ destination overwrite, patch.action ≠ .moveFile destination overwrite) :
    patch.written = patch.path := by
  unfold FilePatch.written
  split
  · next haction => exact absurd haction (h _ _)
  · rfl

/-- What a file patch has come to, by the tree that it leaves and its outcome. -/
inductive Effect (s : Session) (patch : FilePatch) (after : FileTree) (outcome : Outcome) :
    Prop where
  /-- It was not carried out, and nothing has changed. -/
  | left : outcome.status ≠ .success → after = s.tree → Effect s patch after outcome
  /-- It was not carried out, and at most directories are new. -/
  | paved {path : Path} : outcome.status ≠ .success → s.resolve patch.written = .ok path →
    Paves path.dropLast s.tree after → Effect s patch after outcome
  /-- A file was to be moved, and a copy of it has been left. -/
  | copied {source destination file entry target : Path} {made : FileTree}
    {bytes left : Bytes} {e : FileError} {written : Text} {overwrite : Bool} :
    outcome = ⟨.failed, "Failed to move file: " ++ e.message, none⟩ →
    patch.action = .moveFile written overwrite → s.resolve patch.path = .ok source →
    s.resolve written = .ok destination →
    Copies source destination file entry target bytes left s.tree made after →
    s.Stopped source destination (if target = file then [] else bytes) left made after e →
    Effect s patch after outcome
  /-- A file was written.  It is another one than before unless the action replaces the file
  as a whole. -/
  | saved {path entry : Path} {content : Text} : outcome.status = .success →
    outcome.newContent = some content → s.resolve patch.path = .ok path →
    Alters path entry (some (.file (Utf8.encode content))) s.tree after →
    patch.action ≠ .deleteFile →
    (∀ destination overwrite, patch.action ≠ .moveFile destination overwrite) →
    (patch.action = .replaceFile content ∨ (∀ other, patch.action ≠ .replaceFile other) ∧
      s.tree.get? entry ≠ some (.file (Utf8.encode content))) → Effect s patch after outcome
  /-- A file or a link was removed. -/
  | removed {path entry : Path} : outcome.status = .success → outcome.newContent = none →
    s.resolve patch.path = .ok path → Alters path entry none s.tree after →
    patch.action = .deleteFile → s.tree.get? entry ≠ none → Effect s patch after outcome
  /-- A file was moved. -/
  | moved {source destination origin file entry target : Path} {made : FileTree} {bytes : Bytes}
    {written : Text} {overwrite : Bool} : outcome.status = .success →
    patch.action = .moveFile written overwrite → s.resolve patch.path = .ok source →
    s.resolve written = .ok destination →
    Moves source destination origin file entry target bytes s.tree made after →
    Effect s patch after outcome

/-- Nothing but directories on the way to the path that was to be written has been made. -/
structure Untouched (s : Session) (patch : FilePatch) (after : FileTree) : Prop where
  /-- Every file and every link is as it was. -/
  files : ∀ place node, node ≠ .directory →
    (after.get? place = some node ↔ s.tree.get? place = some node)
  /-- Directories that are new hold nothing but one another. -/
  empty : ∀ place name node, s.tree.get? place = none →
    after.get? (place ++ [name]) = some node →
      s.tree.get? (place ++ [name]) = none ∧ node = .directory
  /-- They are on the way to the path. -/
  paved : after = s.tree ∨
    ∃ path, s.resolve patch.written = .ok path ∧ Paves path.dropLast s.tree after

/-- A move was refused when bytes had been copied, and the copy has been left. -/
def CopyLeft (s : Session) (patch : FilePatch) (after : FileTree) (outcome : Outcome) : Prop :=
  ∃ written overwrite source destination file entry target made bytes left e,
    outcome = ⟨.failed, "Failed to move file: " ++ FileError.message e, none⟩ ∧
    patch.action = .moveFile written overwrite ∧ s.resolve patch.path = .ok source ∧
    s.resolve written = .ok destination ∧
    Copies source destination file entry target bytes left s.tree made after ∧
    s.Stopped source destination (if target = file then [] else bytes) left made after e

/-- A run that is not refused to copy or to remove anything leaves no copy. -/
theorem not_copyLeft (hcopy : ∀ tree source path, s.refusals.copyFile tree source path = none)
    (hremove : ∀ tree path, s.refusals.remove tree path = none) (patch : FilePatch)
    (after : FileTree) (outcome : Outcome) : ¬ s.CopyLeft patch after outcome := by
  rintro ⟨_, _, source, destination, _, _, _, made, _, _, e, -, -, -, -, -,
    ⟨count, hbroken, -⟩ | ⟨-, hrefused⟩⟩
  · rw [hcopy] at hbroken
    cases hbroken
  · rw [hremove] at hrefused
    cases hrefused

section Real

variable (hreal : s.Real) (hg : Grounded s.tree s.base)

include hreal hg

theorem execute_effect (patch : FilePatch) :
    Effect s patch (s.execute patch).1.tree (s.execute patch).2.outcome := by
  cases hresolve : s.resolve patch.path with
  | error e => exact .left (by simp [execute, hresolve]) (by simp [execute, hresolve])
  | ok path =>
  obtain ⟨hplain, hpass⟩ := hg.of_resolve hresolve
  obtain ⟨hsession, houtcome⟩ := execute_of_resolve hresolve
  have hfits := Deed.fits_ofAction s.file? s.resolve path patch.action
  have hsuits := Deed.suits_ofAction s.file? s.resolve path patch.action
  rw [hsession, houtcome]
  cases hdeed : Deed.ofAction s.file? s.resolve path patch.action with
  | leave outcome =>
      rw [hdeed] at hfits
      exact .left hfits rfl
  | save content failing message =>
      rw [hdeed] at hsuits
      obtain ⟨hdelete, hmove, hcontent⟩ := hsuits
      rcases write_footprint hreal.dryRun hg.closed hplain hpass (Utf8.encode content) with
        ⟨entry, hok, halters, hfound⟩ | ⟨e, herror, hpaves⟩
      · rw [carry, save, concluding_ok hok]
        refine .saved rfl rfl hresolve halters hdelete hmove ?_
        refine hcontent.imp_right fun hother => ⟨hother.1, fun hsame => hother.2 ?_⟩
        exact hreal.file?_eq path ▸ hfound hsame
      · rw [carry, save, concluding_error herror]
        exact .paved (by simp) (written_eq hmove ▸ hresolve) hpaves
  | delete =>
      rw [hdeed] at hsuits
      rcases remove_footprint hreal.dryRun path with
        ⟨entry, hok, halters, hthere⟩ | ⟨e, herror, hsame⟩
      · rw [carry, concluding_ok hok]
        exact .removed rfl rfl hresolve halters hsuits hthere
      · rw [carry, concluding_error herror]
        exact .left (by simp) hsame
  | move destination written =>
      rw [hdeed] at hfits hsuits
      obtain ⟨hfile, hdest, -⟩ := hfits
      obtain ⟨overwrite, haction⟩ := hsuits
      obtain ⟨bytes, hbytes⟩ := Option.isSome_iff_exists.1 hfile
      rw [hreal.file?_eq] at hbytes
      obtain ⟨hdplain, hdpass⟩ := hg.of_resolve hdest
      rcases move_footprint hreal.dryRun hg hdplain hdpass hplain hbytes with
        ⟨hok, made, origin, file, entry, target, -, -, hmoves⟩ | ⟨e, herror,
          ⟨made, file, entry, target, left, hcopies, hstopped⟩ | hpaves⟩
      · rw [carry, concluding_ok hok]
        exact .moved rfl haction hresolve hdest hmoves
      · rw [carry, concluding_error herror]
        exact .copied rfl haction hresolve hdest hcopies hstopped
      · have hwritten : patch.written = written := by
          unfold FilePatch.written
          rw [haction]
        rw [carry, concluding_error herror]
        exact .paved (by simp) (hwritten ▸ hdest) hpaves

/-! ## Frame -/

/-- A file patch that is not carried out makes nothing but directories, or leaves a copy. -/
theorem execute_failed (patch : FilePatch)
    (hfail : (s.execute patch).2.outcome.status ≠ .success) :
    s.Untouched patch (s.execute patch).1.tree ∨
      s.CopyLeft patch (s.execute patch).1.tree (s.execute patch).2.outcome := by
  have huntouched : ∀ path, Paves path s.tree (s.execute patch).1.tree →
      ((s.execute patch).1.tree = s.tree ∨ ∃ path, s.resolve patch.written = .ok path ∧
        Paves path.dropLast s.tree (s.execute patch).1.tree) →
      s.Untouched patch (s.execute patch).1.tree := fun _ hpaves hleft =>
    ⟨fun place node hnode => hpaves.get?_iff hnode place,
      fun place name node hnone hnode => hpaves.inside hg.closed hnone hnode, hleft⟩
  cases execute_effect hreal hg patch with
  | left _ hsame => exact .inl (huntouched [] (hsame ▸ .refl [] s.tree) (.inl hsame))
  | @paved path _ hresolve hpaves =>
      exact .inl (huntouched _ hpaves (.inr ⟨path, hresolve, hpaves⟩))
  | @copied source destination file entry target made bytes left e written overwrite houtcome
      haction hsource hdest hcopies hstopped =>
      exact .inr ⟨written, overwrite, source, destination, file, entry, target, made, bytes, left,
        e, houtcome, haction, hsource, hdest, hcopies, hstopped⟩
  | saved hok | removed hok | moved hok => exact absurd hok hfail

/-- A file patch that is carried out, and is no move, changes the entry of its path. -/
theorem execute_alters (patch : FilePatch)
    (hok : (s.execute patch).2.outcome.status = .success)
    (hmove : ∀ destination overwrite, patch.action ≠ .moveFile destination overwrite) :
    let after := (s.execute patch).1.tree
    let outcome := (s.execute patch).2.outcome
    ∃ path entry, s.resolve patch.path = .ok path ∧
      Alters path entry (outcome.newContent.map fun t => .file (Utf8.encode t)) s.tree after ∧
      (outcome.newContent = none ↔ patch.action = .deleteFile) ∧
      (after.get? entry = s.tree.get? entry ↔ ∃ content, patch.action = .replaceFile content ∧
        s.tree.get? entry = some (.file (Utf8.encode content))) := by
  intro after outcome
  cases execute_effect hreal hg patch with
  | left hfail | paved hfail => exact absurd hok hfail
  | copied houtcome =>
      rw [houtcome] at hok
      cases hok
  | @saved path entry content _ hnew hresolve halters hdelete _ hcontent =>
      rw [show outcome.newContent = some content from hnew]
      refine ⟨path, entry, hresolve, halters, by simp [hdelete], ?_⟩
      rw [show after.get? entry = _ from halters.here]
      rcases hcontent with haction | ⟨hreplace, hother⟩
      · simp [haction, eq_comm]
      · constructor
        · intro hsame
          exact absurd hsame.symm hother
        · rintro ⟨other, haction, -⟩
          exact absurd haction (hreplace other)
  | @removed path entry _ hnew hresolve halters haction hthere =>
      rw [show outcome.newContent = none from hnew]
      refine ⟨path, entry, hresolve, halters, by simp [haction], ?_⟩
      rw [show after.get? entry = none from halters.here, haction]
      constructor
      · intro hsame
        exact absurd hsame.symm hthere
      · rintro ⟨content, h, -⟩
        cases h
  | moved _ haction => exact absurd haction (hmove _ _)

/-- A file patch that is not carried out leaves every file and every link as it was; what is
new are directories on the way to the path that was to be written, which hold nothing but one
another.  Only a move that is refused to go on when bytes have been copied leaves a copy as
well, and nothing else but such directories.  A file patch that is carried out, and is no
move, leaves all but the entry of its path as it was, such directories apart: nothing is there
after a removal, and else a file with the new content, which is a change unless the file was
replaced by what it held. -/
theorem execute_frame (patch : FilePatch) :
    let after := (s.execute patch).1.tree
    let outcome := (s.execute patch).2.outcome
    (outcome.status ≠ .success → s.Untouched patch after ∨ s.CopyLeft patch after outcome) ∧
    (outcome.status = .success →
      (∀ destination overwrite, patch.action ≠ .moveFile destination overwrite) →
      ∃ path entry, s.resolve patch.path = .ok path ∧
        Alters path entry (outcome.newContent.map fun t => .file (Utf8.encode t)) s.tree after ∧
        (outcome.newContent = none ↔ patch.action = .deleteFile) ∧
        (after.get? entry = s.tree.get? entry ↔ ∃ content, patch.action = .replaceFile content ∧
          s.tree.get? entry = some (.file (Utf8.encode content)))) :=
  ⟨execute_failed hreal hg patch, execute_alters hreal hg patch⟩

end Real

/-- A real run in the base `/w`. -/
def runIn (tree : FileTree) : Session := { base := [['w']], dryRun := false, tree }

theorem runIn_real (tree : FileTree) : (runIn tree).Real := ⟨rfl, fun _ => rfl⟩

/-- A file is created in a directory that is new. -/
theorem execute_frame_newFile :
    let patch : FilePatch := ⟨"d/n".toList, [], .createFile ['x']⟩
    (runIn oneFile).Real ∧ Grounded oneFile [['w']] ∧
      ∃ path entry, (runIn oneFile).resolve patch.path = .ok path ∧
        Alters path entry (some (.file [120])) oneFile ((runIn oneFile).execute patch).1.tree := by
  intro patch
  have hg : Grounded oneFile [['w']] := ⟨closed_of_entries (by decide), rfl, rfl⟩
  have hok : ((runIn oneFile).execute patch).2.outcome.status = .success := by decide
  obtain ⟨path, entry, hresolve, halters, -⟩ :=
    (execute_frame (runIn_real oneFile) hg patch).2 hok (by simp [patch])
  exact ⟨runIn_real oneFile, hg, path, entry, hresolve, halters⟩

/-- No file may be removed. -/
def keptFiles : Refusals where
  remove _ _ := some (.other 13 "Permission denied")

/-- Two file patches do not go by the rule that one that is not carried out makes nothing but
directories, and one that is changes an entry.  If the file `f` may not be removed, then to
move it fails and leaves a copy of it.  If it is replaced by what it holds, then this is
carried out and nothing in the tree differs. -/
theorem execute_unframed :
    let moving : FilePatch := ⟨['f'], [], .moveFile ['g'] false⟩
    let refused : Session := { runIn oneFile with refusals := keptFiles }
    let replacing : FilePatch := ⟨['f'], [], .replaceFile []⟩
    Grounded oneFile [['w']] ∧
      ((refused.execute moving).2.outcome.status ≠ .success ∧
        oneFile.get? [['w'], ['g']] = none ∧
        (refused.execute moving).1.tree.get? [['w'], ['g']] = some (.file [])) ∧
      ((runIn oneFile).execute replacing).2.outcome.status = .success ∧
        ¬ ∃ entry, ((runIn oneFile).execute replacing).1.tree.get? entry ≠ oneFile.get? entry := by
  intro moving refused replacing
  refine ⟨⟨closed_of_entries (by decide), rfl, rfl⟩, ⟨by decide, by decide, by decide⟩,
    by decide, ?_⟩
  rintro ⟨entry, hentry⟩
  have hafter : ((runIn oneFile).execute replacing).1.tree =
      oneFile.put [['w'], ['f']] (.file []) := rfl
  rw [hafter, get?_put (by simp)] at hentry
  split at hentry
  · next heq =>
    subst heq
    exact hentry rfl
  · exact hentry rfl

/-! ## Moves -/

/-- A move that is carried out does what `Moves` says.  If the file is not empty, then it can
be read at the destination with the same bytes, and nothing but the two entries of the move
and directories on the way to the destination has changed, exactly if the copy did not go to
the file itself, and did not go through a link to a file with other bytes. -/
theorem execute_moves (hreal : s.Real) (hg : Grounded s.tree s.base) {patch : FilePatch}
    {written : Text} {overwrite : Bool} (haction : patch.action = .moveFile written overwrite)
    (hok : (s.execute patch).2.outcome.status = .success) :
    ∃ source destination made origin file entry target bytes,
      s.resolve patch.path = .ok source ∧ s.resolve written = .ok destination ∧
      s.tree.file? source = some bytes ∧
      Moves source destination origin file entry target bytes s.tree made
        (s.execute patch).1.tree ∧
      (bytes ≠ [] →
        (((s.execute patch).1.tree.file? destination = some bytes ∧
            ∀ place, place ≠ origin → place ≠ entry →
              (s.execute patch).1.tree.get? place = made.get? place) ↔
          target ≠ file ∧ (target = entry ∨ s.tree.get? target = some (.file bytes)))) := by
  cases execute_effect hreal hg patch with
  | left hfail _ => exact absurd hok hfail
  | paved hfail _ _ => exact absurd hok hfail
  | copied houtcome =>
      rw [houtcome] at hok
      cases hok
  | saved _ _ _ _ _ hmove _ => exact absurd haction (hmove written overwrite)
  | removed _ _ _ _ hdelete _ =>
      rw [haction] at hdelete
      cases hdelete
  | moved _ hmove hsource hdest hmoves =>
      rw [haction, Action.moveFile.injEq] at hmove
      obtain ⟨rfl, -⟩ := hmove
      exact ⟨_, _, _, _, _, _, _, _, hsource, hdest,
        file?_eq_some.2 ⟨_, hmoves.leads, hmoves.held⟩, hmoves, hmoves.faithful_iff⟩

/-- A base `/w` with the files `/w/f` and `/w/g` and a link to each of them. -/
def linkedFiles : FileTree where
  entries := [([['w']], .directory), ([['w'], ['f']], .file [107]),
    ([['w'], ['g']], .file [111]), ([['w'], ['l']], .link ['f']), ([['w'], ['m']], .link ['g'])]

theorem linkedFiles_grounded : Grounded linkedFiles [['w']] :=
  ⟨closed_of_entries (by decide), rfl, rfl⟩

/-- The file `f` is moved to a path at which there is nothing. -/
theorem execute_moves_linkedFiles :
    let patch : FilePatch := ⟨['f'], [], .moveFile "d/n".toList false⟩
    (runIn linkedFiles).Real ∧ Grounded linkedFiles [['w']] ∧
      ((runIn linkedFiles).execute patch).2.outcome.status = .success ∧
      ∃ source destination made origin file entry target bytes,
        (runIn linkedFiles).resolve patch.path = .ok source ∧
        Moves source destination origin file entry target bytes linkedFiles made
          ((runIn linkedFiles).execute patch).1.tree := by
  intro patch
  have hok : ((runIn linkedFiles).execute patch).2.outcome.status = .success := by decide
  obtain ⟨source, destination, made, origin, file, entry, target, bytes, hsource, -, -, hmoves, -⟩ :=
    execute_moves (runIn_real linkedFiles) linkedFiles_grounded rfl hok
  exact ⟨runIn_real linkedFiles, linkedFiles_grounded, hok, source, destination, made, origin, file,
    entry, target, bytes, hsource, hmoves⟩

/-- The link `l` is moved to the file `f` that it leads to, and the file is empty afterwards.
The file `f` is moved to the link `m`, and afterwards `g` holds what `f` held. -/
theorem move_to_itself :
    let toFile : FilePatch := ⟨['l'], [], .moveFile ['f'] true⟩
    let toLink : FilePatch := ⟨['f'], [], .moveFile ['m'] true⟩
    Grounded linkedFiles [['w']] ∧
      (((runIn linkedFiles).execute toFile).2.outcome.status = .success ∧
        linkedFiles.file? [['w'], ['l']] = some [107] ∧
        ((runIn linkedFiles).execute toFile).1.tree.file? [['w'], ['f']] = some []) ∧
      ((runIn linkedFiles).execute toLink).2.outcome.status = .success ∧
        linkedFiles.get? [['w'], ['g']] = some (.file [111]) ∧
        ((runIn linkedFiles).execute toLink).1.tree.get? [['w'], ['g']] = some (.file [107]) := by
  intro toFile toLink
  exact ⟨linkedFiles_grounded, ⟨by decide, by decide, by decide⟩, by decide, by decide, by decide⟩

end Session

end Emend
