import Emend.Proofs.Run.Plan
/-!
# What an action comes to

An action looks at its session in two ways only: at the files that the session sees,
and at what written paths stand for.  From this follows what it does, its deed: it
leaves all as it is, or it does one operation on the session.  `deed` is this part of
`perform`, and `perform_eq` puts the two together again, so what holds of every action
is shown deed by deed.
-/

namespace Emend

/-- What an action does. -/
inductive Deed where
  /-- Nothing, with this outcome. -/
  | leave (outcome : Outcome)
  /-- Write a text to the file. -/
  | save (content : Text) (failing message : String)
  /-- Remove the file. -/
  | delete
  /-- Move the file to the path for a written path. -/
  | move (destination : Path) (written : Text)

/-- The written paths that a file patch names. -/
def FilePatch.names (patch : FilePatch) : List Text :=
  patch.path :: match patch.action with
    | .moveFile written _ => [written]
    | _ => []

/-- What is said first about a file that could not be changed. -/
def faultHeads : List String :=
  ["Failed to create file: ", "Failed to replace file: ", "Failed to delete file: ",
    "Failed to move file: ", "Failed to write file: "]

/-- Whether an outcome says that a file could not be changed. -/
def Outcome.isWriteFault (o : Outcome) : Bool :=
  o.status == .failed && faultHeads.any fun head => head.toList.isPrefixOf o.message.toList

theorem Outcome.isWriteFault_of_head {head failing : String} (hmem : head ∈ faultHeads)
    (hhead : head.toList <+: failing.toList) (rest : String) :
    (Outcome.mk .failed (failing ++ rest) none).isWriteFault = true := by
  simp only [isWriteFault, beq_self_eq_true, Bool.true_and, List.any_eq_true]
  refine ⟨head, hmem, List.isPrefixOf_iff_prefix.2 (hhead.trans ?_)⟩
  rw [String.toList_append]
  exact List.prefix_append _ _

theorem mapError_eq_ok {ε ε' α : Type} {f : ε → ε'} {x : Except ε α} {a : α} :
    x.mapError f = .ok a ↔ x = .ok a := by
  cases x with
  | error e => exact iff_of_false (by rintro ⟨⟩) (by rintro ⟨⟩)
  | ok b =>
      rw [Except.ok.injEq]
      exact ⟨Except.ok.inj, congrArg Except.ok⟩

theorem mapError_eq_error {ε ε' α : Type} {f : ε → ε'} {x : Except ε α} {e' : ε'} :
    x.mapError f = .error e' ↔ ∃ e, x = .error e ∧ f e = e' := by
  cases x with
  | error e =>
      constructor
      · exact fun h => ⟨e, rfl, Except.error.inj h⟩
      · rintro ⟨_, he, h⟩
        cases he
        exact congrArg Except.error h
  | ok b =>
      refine iff_of_false (by rintro ⟨⟩) ?_
      rintro ⟨_, h, -⟩
      cases h

namespace Deed

variable (file? : Path → Option Bytes) (resolve : Text → Except GuardError Path) (path : Path)

/-- What comes of a change where a pattern is found. -/
def ofEdit (pattern : Text) (options : MatchOptions) (change : Change) : Deed :=
  match file? path with
  | none => leave ⟨.fileNotFound, "File does not exist", none⟩
  | some bytes =>
    match Utf8.decode bytes with
    | .error e => leave ⟨.failed, "Failed to read file: " ++ e.message, none⟩
    | .ok content =>
      match plan content pattern options change with
      | .error e => leave ⟨.failed, "Edit verification failed: " ++ e.message, none⟩
      | .ok (.notFound message) => leave ⟨.skipped, message, none⟩
      | .ok (.edited after summary) =>
        if after = content then leave ⟨.skipped, "Content unchanged", none⟩
        else save after "Failed to write file: " summary

/-- What comes of a move to a written path. -/
def ofMove (written : Text) (overwrite : Bool) : Deed :=
  if (file? path).isSome then
    match resolve written with
    | .error e => leave ⟨.failed, e.message, none⟩
    | .ok destination =>
      if destination = path then
        leave ⟨.skipped, "Source and destination are the same file", none⟩
      else if (file? destination).isSome && !overwrite then
        leave ⟨.failed, "Destination already exists (set OVERWRITE: true to replace it)", none⟩
      else move destination written
  else leave ⟨.fileNotFound, "Source file does not exist", none⟩

/-- What an action on the file at a path does, by the files that are seen. -/
def ofAction : Action → Deed
  | .replace find replacement options => ofEdit file? path find options (.replaced replacement)
  | .insertBefore marker content options => ofEdit file? path marker options (.before content)
  | .insertAfter marker content options => ofEdit file? path marker options (.after content)
  | .delete find options => ofEdit file? path find options .deleted
  | .createFile content =>
    if (file? path).isSome then leave ⟨.skipped, "File already exists", none⟩
    else save content "Failed to create file: " s!"Created file ({content.length} characters)"
  | .replaceFile content =>
    if (file? path).isSome then
      save content "Failed to replace file: "
        s!"Replaced entire file content ({content.length} characters)"
    else leave ⟨.fileNotFound, "File does not exist", none⟩
  | .deleteFile =>
    if (file? path).isSome then delete
    else leave ⟨.skipped, "File does not exist", none⟩
  | .moveFile destination overwrite => ofMove file? resolve path destination overwrite

/-- What reading the file at a path gives: a text, or why it is none. -/
def reading : Option (Except String Text) :=
  (file? path).map fun bytes => (Utf8.decode bytes).mapError Utf8.DecodeError.message

section Reading

variable {file? path}

theorem reading_eq_ok {content : Text} : reading file? path = some (.ok content) ↔
    ∃ bytes, file? path = some bytes ∧ Utf8.decode bytes = .ok content := by
  rw [reading, Option.map_eq_some_iff]
  simp only [mapError_eq_ok]

theorem reading_eq_error {message : String} : reading file? path = some (.error message) ↔
    ∃ bytes e, file? path = some bytes ∧ Utf8.decode bytes = .error e ∧ e.message = message := by
  rw [reading, Option.map_eq_some_iff]
  simp only [mapError_eq_error, exists_and_left]

theorem reading_of_encode {content : Text} (h : file? path = some (Utf8.encode content)) :
    reading file? path = some (.ok content) :=
  reading_eq_ok.2 ⟨_, h, Utf8.decode_encode content⟩

end Reading

section Congr

variable {file? path} {other : Path → Option Bytes}
  {resolve resolve' : Text → Except GuardError Path} {action : Action}

theorem isSome_eq (h : reading file? path = reading other path) :
    (file? path).isSome = (other path).isSome := by
  simpa [reading] using congrArg Option.isSome h

/-- A change depends on the text that is read. -/
theorem ofEdit_congr (h : reading file? path = reading other path) (pattern : Text)
    (options : MatchOptions) (change : Change) :
    ofEdit file? path pattern options change = ofEdit other path pattern options change := by
  unfold ofEdit
  unfold reading at h
  cases hfile : file? path with
  | none =>
      rw [hfile] at h
      rw [Option.map_eq_none_iff.1 h.symm]
  | some bytes =>
  cases hother : other path with
  | none => simp [hfile, hother] at h
  | some bytes' =>
  rw [hfile, hother, Option.map_some, Option.map_some, Option.some.injEq] at h
  cases hdecode : Utf8.decode bytes with
  | error e =>
      cases hdecode' : Utf8.decode bytes' with
      | error e' =>
          rw [hdecode, hdecode'] at h
          simp only [hdecode, hdecode', Except.error.inj h]
      | ok content =>
          rw [hdecode, hdecode'] at h
          cases h
  | ok content =>
      cases hdecode' : Utf8.decode bytes' with
      | error e =>
          rw [hdecode, hdecode'] at h
          cases h
      | ok content' =>
          rw [hdecode, hdecode'] at h
          simp only [hdecode, hdecode', Except.ok.inj h]

/-- A deed depends on what is read at the path, and on what a written destination stands for
and what is read there. -/
theorem ofAction_congr_reading (hpath : reading file? path = reading other path)
    (hdest : ∀ written overwrite, action = .moveFile written overwrite →
      resolve written = resolve' written ∧
        ∀ p, resolve written = .ok p → reading file? p = reading other p) :
    ofAction file? resolve path action = ofAction other resolve' path action := by
  cases action with
  | replace find replacement options => exact ofEdit_congr hpath _ _ _
  | insertBefore marker content options => exact ofEdit_congr hpath _ _ _
  | insertAfter marker content options => exact ofEdit_congr hpath _ _ _
  | delete find options => exact ofEdit_congr hpath _ _ _
  | createFile content => rw [ofAction, ofAction, isSome_eq hpath]
  | replaceFile content => rw [ofAction, ofAction, isSome_eq hpath]
  | deleteFile => rw [ofAction, ofAction, isSome_eq hpath]
  | moveFile written overwrite =>
      obtain ⟨hsame, hread⟩ := hdest written overwrite rfl
      rw [ofAction, ofAction, ofMove, ofMove, isSome_eq hpath, ← hsame]
      cases hr : resolve written with
      | error e => rfl
      | ok destination => simp only [isSome_eq (hread destination hr)]

/-- So a deed depends on the files at these paths. -/
theorem ofAction_congr (hpath : file? path = other path)
    (hdest : ∀ written overwrite p, action = .moveFile written overwrite →
      resolve written = .ok p → file? p = other p) :
    ofAction file? resolve path action = ofAction other resolve path action :=
  ofAction_congr_reading (by rw [reading, reading, hpath]) fun written overwrite haction =>
    ⟨rfl, fun p hp => by rw [reading, reading, hdest written overwrite p haction hp]⟩

end Congr

/-- What a deed has been chosen by. -/
def Fits : Deed → Prop
  | leave outcome => outcome.status ≠ .success
  | save _ failing _ => failing ∈ faultHeads
  | delete => True
  | move destination written =>
    (file? path).isSome ∧ resolve written = .ok destination ∧ destination ≠ path

theorem fits_ofEdit (pattern : Text) (options : MatchOptions) (change : Change) :
    Fits file? resolve path (ofEdit file? path pattern options change) := by
  unfold ofEdit
  split
  · simp [Fits]
  split
  · simp [Fits]
  split
  · simp [Fits]
  · simp [Fits]
  split
  · simp [Fits]
  · simp [Fits, faultHeads]

theorem fits_ofMove (written : Text) (overwrite : Bool) :
    Fits file? resolve path (ofMove file? resolve path written overwrite) := by
  unfold ofMove
  split
  · next hfile =>
    split
    · simp [Fits]
    · next destination hresolve =>
      split
      · simp [Fits]
      · next hne =>
        split
        · simp [Fits]
        · exact ⟨hfile, hresolve, hne⟩
  · simp [Fits]

theorem fits_ofAction (action : Action) :
    Fits file? resolve path (ofAction file? resolve path action) := by
  cases action with
  | replace find replacement options => exact fits_ofEdit _ _ _ _ _ _
  | insertBefore marker content options => exact fits_ofEdit _ _ _ _ _ _
  | insertAfter marker content options => exact fits_ofEdit _ _ _ _ _ _
  | delete find options => exact fits_ofEdit _ _ _ _ _ _
  | createFile content =>
      rw [ofAction]
      split <;> simp [Fits, faultHeads]
  | replaceFile content =>
      rw [ofAction]
      split <;> simp [Fits, faultHeads]
  | deleteFile =>
      rw [ofAction]
      split <;> simp [Fits]
  | moveFile destination overwrite => exact fits_ofMove _ _ _ _ _

end Deed

namespace Session

/-- Does a deed to the file at a path. -/
def carry (s : Session) (path : Path) : Deed → Session × Outcome
  | .leave outcome => (s, outcome)
  | .save content failing message => s.save path content failing message
  | .delete =>
    concluding "Failed to delete file: " ⟨.success, "Deleted file", none⟩ (s.remove path)
  | .move destination written =>
    concluding "Failed to move file: "
      ⟨.success, "Moved file to " ++ String.ofList written, none⟩ (s.move path destination)

variable (s : Session) (path : Path)

/-- A change does the same with each digest. -/
theorem editFile_eq (pattern : Text) (options : MatchOptions) (change : Change) :
    s.editFile path pattern options change =
      s.carry path (.ofEdit s.file? path pattern options change) := by
  cases hfile : s.file? path with
  | none => simp [editFile, Deed.ofEdit, carry, hfile]
  | some bytes =>
  cases hdecode : Utf8.decode bytes with
  | error e => simp [editFile, Deed.ofEdit, carry, hfile, hdecode]
  | ok content =>
  have hsame : plan content pattern options change s.hash = plan content pattern options change :=
    plan_hash change s.hash Text.digest
  cases hplan : plan content pattern options change with
  | error e => simp [editFile, Deed.ofEdit, carry, hfile, hdecode, hsame, hplan]
  | ok planned =>
  cases planned with
  | notFound message => simp [editFile, Deed.ofEdit, carry, hfile, hdecode, hsame, hplan]
  | edited after summary =>
      by_cases heq : after = content <;>
        simp [editFile, Deed.ofEdit, carry, hfile, hdecode, hsame, hplan, heq]

theorem moveFile_eq (written : Text) (overwrite : Bool) :
    s.moveFile path written overwrite =
      s.carry path (.ofMove s.file? s.resolve path written overwrite) := by
  by_cases hfile : (s.file? path).isSome
  · cases hresolve : s.resolve written with
    | error e => simp [moveFile, Deed.ofMove, carry, isFile, hfile, hresolve]
    | ok destination =>
        by_cases heq : destination = path
        · simp [moveFile, Deed.ofMove, carry, isFile, hfile, hresolve, heq]
        · by_cases hover : ((s.file? destination).isSome && !overwrite) = true <;>
            simp only [moveFile, Deed.ofMove, carry, isFile, hfile, hresolve, heq, hover, if_true,
              if_false, Bool.false_eq_true]
  · simp [moveFile, Deed.ofMove, carry, isFile, hfile]

/-- To carry out an action is to do its deed. -/
theorem perform_eq (action : Action) :
    s.perform path action = s.carry path (.ofAction s.file? s.resolve path action) := by
  cases action with
  | replace find replacement options => exact editFile_eq s path _ _ _
  | insertBefore marker content options => exact editFile_eq s path _ _ _
  | insertAfter marker content options => exact editFile_eq s path _ _ _
  | delete find options => exact editFile_eq s path _ _ _
  | createFile content =>
      by_cases hfile : (s.file? path).isSome <;>
        simp [perform, createFile, Deed.ofAction, carry, isFile, hfile]
  | replaceFile content =>
      by_cases hfile : (s.file? path).isSome <;>
        simp [perform, overwriteFile, Deed.ofAction, carry, isFile, hfile]
  | deleteFile =>
      by_cases hfile : (s.file? path).isSome <;>
        simp [perform, deleteFile, Deed.ofAction, carry, isFile, hfile]
  | moveFile destination overwrite => exact moveFile_eq s path _ _

end Session

end Emend
