import Emend.Proofs.Run.Deed
import Emend.Proofs.Workspace.Operations
/-!
# What stays in the base directory

The guard looks at where a path leads, and a change is made at the entry of the path.
These differ for links only: a path strays (`Session.Strays`) if its entry is a link
which is stored outside the base, however the path gets there.

*One step.*  `Ran` is what holds of each operation: no directory is lost and no link
is made (`Tame`), nothing outside the base changes unless the path strays, and if it
strays the link is lost.

*A run.*  Since links are never made again, a run leaves all that is outside the base
as it was exactly if none of its file patches strays
(`outside_unchanged_iff`).
-/

namespace Emend

open FileTree

namespace FileTree

variable {base : Path} {old mid new : FileTree}

/-- Nothing changes outside the base. -/
def SameOutside (base : Path) (old new : FileTree) : Prop :=
  ∀ path, ¬ Path.Below base path → new.get? path = old.get? path

/-- A link is lost outside the base. -/
def LosesOutside (base : Path) (old new : FileTree) : Prop :=
  ∃ path target, ¬ Path.Below base path ∧ old.get? path = some (.link target) ∧
    new.get? path ≠ some (.link target)

theorem LosesOutside.not_same (h : LosesOutside base old new) : ¬ SameOutside base old new := by
  obtain ⟨path, target, hout, hold, hnew⟩ := h
  intro hsame
  rw [hsame path hout] at hnew
  exact hnew hold

end FileTree

namespace Session

variable {s mid s' : Session} {path : Path} {strays more : Prop}

/-! ## One operation -/

/-- A path strays if its entry is a link that is stored outside the base. -/
def Strays (s : Session) (path : Path) : Prop :=
  ∃ entry target, s.tree.entryOf path = .ok entry ∧ ¬ Path.Below s.base entry ∧
    s.tree.get? entry = some (.link target)

/-- What a real operation does to a session, given whether its path strays. -/
structure Ran (s s' : Session) (strays : Prop) : Prop where
  /-- Nothing but the tree changes. -/
  frame : s' = { s with tree := s'.tree }
  /-- No directory is lost and no link is made. -/
  tame : Tame s.tree s'.tree
  /-- What is outside the base is left alone. -/
  kept : ¬ strays → SameOutside s.base s.tree s'.tree
  /-- A link outside the base is lost. -/
  lost : strays → LosesOutside s.base s.tree s'.tree

namespace Ran

theorem congr (h : Ran s s' strays) (heq : strays ↔ more) : Ran s s' more :=
  ⟨h.frame, h.tame, fun hno => h.kept fun hyes => hno (heq.1 hyes), fun hyes => h.lost (heq.2 hyes)⟩

theorem refl (h : s.tree.Closed) : Ran s s False :=
  ⟨rfl, .refl h, fun _ _ _ => rfl, False.elim⟩

theorem base_eq (h : Ran s s' strays) : s'.base = s.base := by
  rw [h.frame]

theorem dryRun_eq (h : Ran s s' strays) : s'.dryRun = s.dryRun := by
  rw [h.frame]

theorem staged_eq (h : Ran s s' strays) : s'.staged = s.staged := by
  rw [h.frame]

/-- A link that is lost stays lost. -/
theorem trans (h₁ : Ran s mid strays) (h₂ : Ran mid s' more) : Ran s s' (strays ∨ more) := by
  refine ⟨?_, h₁.tame.trans h₂.tame, fun hno path hout => ?_, fun hyes => ?_⟩
  · rw [h₂.frame, h₁.frame]
  · have hsecond := h₂.kept fun hm => hno (.inr hm)
    rw [h₁.base_eq] at hsecond
    rw [hsecond path hout]
    exact h₁.kept (fun hs => hno (.inl hs)) path hout
  · rcases hyes with hyes | hyes
    · obtain ⟨path, target, hout, hold, hmid⟩ := h₁.lost hyes
      exact ⟨path, target, hout, hold, fun hnew => hmid (h₂.tame.links path target hnew)⟩
    · obtain ⟨path, target, hout, hmid, hnew⟩ := h₂.lost hyes
      rw [h₁.base_eq] at hout
      exact ⟨path, target, hout, h₁.tame.links path target hmid, hnew⟩

theorem of_grows {new : FileTree} (h : Grows s.base s.tree new) (hclosed : new.Closed) :
    Ran s { s with tree := new } False :=
  ⟨rfl, h.tame hclosed, fun _ _ hout => h.outside hout, False.elim⟩

/-- A change at an entry below the base is none outside. -/
theorem of_below {made new : FileTree} {entry : Path} (hgrows : Grows s.base s.tree made)
    (hclosed : made.Closed) (hin : InDirectory made entry)
    (hd : made.get? entry ≠ some .directory) (hnew : Strikes entry made new)
    (hbelow : Path.Below s.base entry) : Ran s { s with tree := new } False := by
  refine ⟨rfl, (hgrows.tame hclosed).trans (hnew.tame hclosed hin hd), fun _ other hout => ?_,
    False.elim⟩
  have hother : other ≠ entry := by
    rintro rfl
    exact hout hbelow
  rw [show _ = made.get? other from hnew.get?_of_ne hin.ne_nil hother, hgrows.outside hout]

/-- The entry of a path that passes is below the base, unless the path strays. -/
theorem of_entry {made new : FileTree} {entry : Path} (hg : Grounded s.tree s.base)
    (hplain : ∀ n ∈ path, Path.isPlain n = true) (hpass : Guard.Allows s.tree s.base path)
    {refusals : Refusals} (hm : s.tree.makeDirs path.dropLast refusals = (made, .ok ()))
    (he : made.entryOf path = .ok entry) (hd : made.get? entry ≠ some .directory)
    (hnew : Strikes entry made new) :
    Ran s { s with tree := new } (s.Strays path) := by
  obtain ⟨hgrows, hclosed⟩ := grows_of_makeDirs hg.closed hplain hpass hm
  have hin := inDirectory_of_entryOf he
  rcases entry_cases hg.closed hplain hpass hm he with hbelow | ⟨rfl, rfl | ⟨target, hlink⟩⟩
  · refine (of_below hgrows hclosed hin hd hnew hbelow).congr ⟨False.elim, ?_⟩
    rintro ⟨entry', target, he', hout, -⟩
    have hsame := entryOf_keeps hgrows.keeps he'
    rw [he, Except.ok.injEq] at hsame
    exact hout (hsame ▸ hbelow)
  · exact absurd hg.directory hd
  · by_cases hbelow : Path.Below s.base entry
    · refine (of_below hgrows hclosed hin hd hnew hbelow).congr ⟨False.elim, ?_⟩
      rintro ⟨entry', _, he', hout, -⟩
      rw [he, Except.ok.injEq] at he'
      exact hout (he' ▸ hbelow)
    · have hstrays : s.Strays path := ⟨entry, target, he, hbelow, hlink⟩
      exact ⟨rfl, hnew.tame hclosed hin hd, fun hno => absurd hstrays hno,
        fun _ => ⟨entry, target, hbelow, hlink, hnew.no_link hin.ne_nil target⟩⟩

end Ran

/-! ## The operations of a real run -/

section Operations

variable (hreal : s.dryRun = false) (hg : Grounded s.tree s.base)
  (hplain : ∀ n ∈ path, Path.isPlain n = true) (hpass : Guard.Allows s.tree s.base path)

include hreal hg hplain hpass

theorem write_ran (bytes : Bytes) : Ran s (s.write path bytes).1
    ((s.write path bytes).2 = .ok () ∧ s.Strays path) := by
  obtain ⟨made, res, hm, ⟨entry, rfl, he, hd, hwrite⟩ | ⟨e, hwrite⟩⟩ :=
    write_cases hreal path bytes
  · rw [hwrite]
    exact (Ran.of_entry hg hplain hpass hm he hd (.put bytes)).congr (by simp)
  · rw [hwrite]
    obtain ⟨hgrows, hclosed⟩ := grows_of_makeDirs hg.closed hplain hpass hm
    exact (Ran.of_grows hgrows hclosed).congr (by simp)

theorem remove_ran : Ran s (s.remove path).1 ((s.remove path).2 = .ok () ∧ s.Strays path) := by
  rcases remove_cases hreal path with ⟨entry, node, he, hnode, hd, hremove⟩ | ⟨e, hremove⟩
  · have hm : s.tree.makeDirs path.dropLast s.refusals = (s.tree, .ok ()) :=
      makeDirs_of_entry hplain he
    have hnd : s.tree.get? entry ≠ some .directory := by
      rw [hnode]
      simpa using hd
    rw [hremove]
    exact (Ran.of_entry hg hplain hpass hm he hnd .erase).congr (by simp)
  · rw [hremove]
    exact (Ran.refl hg.closed).congr (by simp)

end Operations

/-- A file is copied to a path that passes without a change outside the base, and what
a path led to it leads to afterwards, even if the copy breaks off. -/
theorem copy_ran (hg : Grounded s.tree s.base) (hplain : ∀ n ∈ path, Path.isPlain n = true)
    (hpass : Guard.Allows s.tree s.base path) (source : Path) :
    Ran s (s.changeIn path (copy source path)).1 False ∧
      Keeps s.tree (s.changeIn path (copy source path)).1.tree := by
  obtain ⟨made, res, hm, ⟨entry, bytes, kept, out, rfl, hw, -, -, hcopy⟩ | ⟨e, hcopy⟩⟩ :=
    s.copyIn_cases source path
  · obtain ⟨hgrows, hclosed⟩ := grows_of_makeDirs hg.closed hplain hpass hm
    obtain ⟨hbelow, hfile⟩ := writeEntry_cases hg.closed hplain hpass hm hg.directory hw
    have hnd : made.get? entry ≠ some .directory := by
      intro hd
      obtain ⟨_, h⟩ := hfile _ hd
      cases h
    rw [hcopy]
    exact ⟨.of_below hgrows hclosed (inDirectory_of_writeEntry hw) hnd (.put kept) hbelow,
      hgrows.keeps.trans (.put_file made hbelow.ne_nil kept hfile)⟩
  · rw [hcopy]
    obtain ⟨hgrows, hclosed⟩ := grows_of_makeDirs hg.closed hplain hpass hm
    exact ⟨Ran.of_grows hgrows hclosed, hgrows.keeps⟩

/-- A path that leads somewhere strays where it strayed, if links and directories are
as they were. -/
theorem strays_iff (h : Ran s mid False) (hkeeps : Keeps s.tree mid.tree)
    (hplain : ∀ n ∈ path, Path.isPlain n = true) {place : Path}
    (hplace : s.tree.canonical path = .ok place) : mid.Strays path ↔ s.Strays path := by
  rcases List.eq_nil_or_concat path with rfl | ⟨above, name, rfl⟩
  · simp [Strays, entryOf]
  rw [List.concat_eq_append] at hplain hplace ⊢
  obtain ⟨entry, node, he, -, -⟩ := locate_concat_eq_ok (hplain name (by simp)) hplace
  have he' := entryOf_keeps hkeeps he
  constructor
  · rintro ⟨found, target, hfound, hout, hlink⟩
    rw [he', Except.ok.injEq] at hfound
    subst hfound
    rw [h.base_eq] at hout
    exact ⟨entry, target, he, hout, h.tame.links entry target hlink⟩
  · rintro ⟨found, target, hfound, hout, hlink⟩
    rw [he, Except.ok.injEq] at hfound
    subst hfound
    rw [← h.base_eq] at hout
    exact ⟨entry, target, he', hout, hkeeps.link hlink⟩

/-- A file is moved by a copy that stays below the base and by taking it away. -/
theorem move_ran {source : Path} (hreal : s.dryRun = false) (hg : Grounded s.tree s.base)
    (hplain : ∀ n ∈ path, Path.isPlain n = true) (hpass : Guard.Allows s.tree s.base path)
    (hsource : ∀ n ∈ source, Path.isPlain n = true)
    (hallows : Guard.Allows s.tree s.base source) (hfile : (s.tree.file? source).isSome) :
    Ran s (s.move source path).1 ((s.move source path).2 = .ok () ∧ s.Strays source) := by
  obtain ⟨hcopy, hkeeps⟩ := copy_ran hg hplain hpass source
  rcases move_cases hreal source path with ⟨mid, e, hc, hmove⟩ | ⟨mid, hc, hmove⟩
  · rw [hmove]
    rw [hc] at hcopy
    exact hcopy.congr (by simp)
  rw [hc] at hcopy hkeeps
  have hmid := hcopy.tame.grounded hg
  rw [← hcopy.base_eq] at hmid
  -- The source is still there after the copy, at the entry at which it was.
  obtain ⟨bytes, hbytes⟩ := Option.isSome_iff_exists.1 hfile
  obtain ⟨place, hplace, -⟩ := file?_eq_some.1 hbytes
  have hpassed : Guard.Allows mid.tree mid.base source := by
    rw [Guard.allows_iff (canonical_keeps hkeeps hplace), hcopy.base_eq]
    exact (Guard.allows_iff hplace).1 hallows
  have hreal' := hcopy.dryRun_eq.trans hreal
  have hremove := remove_ran hreal' hmid hsource hpassed
  rw [hmove]
  refine (hcopy.trans hremove).congr ?_
  rw [false_or, strays_iff hcopy hkeeps hsource hplace]

/-! ## File patches -/

theorem Ran.real (h : Ran s s' strays) (hreal : s.Real) : s'.Real :=
  ⟨h.dryRun_eq.trans hreal.dryRun, fun path => by rw [h.staged_eq, hreal.staged]⟩

theorem Ran.grounded (h : Ran s s' strays) (hg : Grounded s.tree s.base) :
    Grounded s'.tree s'.base := by
  rw [h.base_eq]
  exact h.tame.grounded hg

theorem Ran.unchanged (h : s.tree.Closed) {outcome : Outcome} (hne : outcome.status ≠ .success) :
    Ran s s (outcome.status = .success ∧ strays) :=
  (Ran.refl h).congr ⟨False.elim, fun hyes => hne hyes.1⟩

/-- An operation is a success exactly if nothing went wrong. -/
theorem Ran.concluding {op : Session × Except FileError Unit}
    (h : Ran s op.1 (op.2 = .ok () ∧ strays)) {success : Outcome}
    (hsuccess : success.status = .success) (failing : String) :
    Ran s (Session.concluding failing success op).1
      ((Session.concluding failing success op).2.status = .success ∧ strays) := by
  obtain ⟨op, res⟩ := op
  cases res with
  | ok u => exact h.congr (by simp [Session.concluding, hsuccess])
  | error e => exact h.congr (by simp [Session.concluding])

/-- An action on a path that passes changes something outside the base exactly if it is
carried out and the path strays. -/
theorem perform_ran (hreal : s.Real) (hg : Grounded s.tree s.base)
    (hplain : ∀ n ∈ path, Path.isPlain n = true) (hpass : Guard.Allows s.tree s.base path)
    (action : Action) :
    Ran s (s.perform path action).1
      ((s.perform path action).2.status = .success ∧ s.Strays path) := by
  have hfits := Deed.fits_ofAction s.file? s.resolve path action
  rw [perform_eq]
  cases hdeed : Deed.ofAction s.file? s.resolve path action with
  | leave outcome =>
      rw [hdeed] at hfits
      exact Ran.unchanged hg.closed hfits
  | save content failing message =>
      exact (write_ran hreal.dryRun hg hplain hpass _).concluding rfl _
  | delete => exact (remove_ran hreal.dryRun hg hplain hpass).concluding rfl _
  | move destination written =>
      rw [hdeed] at hfits
      obtain ⟨hfile, hresolve, -⟩ := hfits
      rw [hreal.file?_eq] at hfile
      obtain ⟨hdplain, hdpass⟩ := hg.of_resolve hresolve
      exact (move_ran hreal.dryRun hg hdplain hdpass hplain hpass hfile).concluding rfl _

/-- A file patch strays if it is carried out at a path that strays. -/
def StraysAt (s : Session) (patch : FilePatch) : Prop :=
  (s.execute patch).2.outcome.status = .success ∧
    ∃ path, s.resolve patch.path = .ok path ∧ s.Strays path

theorem execute_ran (hreal : s.Real) (hg : Grounded s.tree s.base) (patch : FilePatch) :
    Ran s (s.execute patch).1 (s.StraysAt patch) := by
  unfold StraysAt execute
  cases hresolve : s.resolve patch.path with
  | error e => exact (Ran.refl hg.closed).congr (by simp)
  | ok path =>
      obtain ⟨hplain, hpass⟩ := hg.of_resolve hresolve
      exact (perform_ran hreal hg hplain hpass patch.action).congr (by simp)

/-! ## A run -/

/-- Some file patch strays when its turn comes. -/
def StraysIn (s : Session) : List FilePatch → Prop
  | [] => False
  | patch :: rest => s.StraysAt patch ∨ (s.execute patch).1.StraysIn rest

theorem executeAll_ran (hreal : s.Real) (hg : Grounded s.tree s.base) (patches : List FilePatch) :
    Ran s (s.executeAll patches).1 (s.StraysIn patches) := by
  induction patches generalizing s with
  | nil => exact .refl hg.closed
  | cons patch rest ih =>
      have hstep := execute_ran hreal hg patch
      exact hstep.trans (ih (hstep.real hreal) (hstep.grounded hg))

/-- The entry of a path that the guard lets pass is in a directory inside the base,
unless the path is the base itself or there is a link at it. -/
theorem entry_inside {tree made : FileTree} {base entry : Path} {written : Text}
    {refusals : Refusals} (hg : Grounded tree base)
    (hresolve : Guard.resolve tree base written = .ok path)
    (hm : tree.makeDirs path.dropLast refusals = (made, .ok ()))
    (he : made.entryOf path = .ok entry) :
    base <+: entry.dropLast ∨ entry = base ∨ ∃ target, tree.get? entry = some (.link target) := by
  obtain ⟨hplain, hpass⟩ := hg.of_resolve hresolve
  rcases entry_cases hg.closed hplain hpass hm he with hbelow | ⟨-, hcase⟩
  · exact .inl hbelow.dropLast
  · exact .inr hcase

/-- A real run leaves everything outside the base as it was exactly if none of its file
patches strays, whatever it is refused.  At any time in a run, a path that the guard lets pass
acts in a directory inside the base, unless it is the base itself or there is a link at it. -/
theorem outside_unchanged_iff {tree : FileTree} {base : Path} (hg : Grounded tree base)
    (refusals : Refusals) :
    let start : Session := { base, dryRun := false, tree, refusals }
    (∀ patches, (∀ path, ¬ Path.Below base path →
        (start.executeAll patches).1.tree.get? path = tree.get? path) ↔
          ¬ start.StraysIn patches) ∧
      ∀ done written path made entry,
        let s := (start.executeAll done).1
        s.resolve written = .ok path → s.tree.makeDirs path.dropLast refusals = (made, .ok ()) →
          made.entryOf path = .ok entry → base <+: entry.dropLast ∨ entry = base ∨
            ∃ target, s.tree.get? entry = some (.link target) := by
  intro start
  have hreal : start.Real := ⟨rfl, fun _ => rfl⟩
  have hrun : ∀ patches, Ran start (start.executeAll patches).1 (start.StraysIn patches) :=
    executeAll_ran hreal hg
  constructor
  · intro patches
    exact ⟨fun hsame hyes => ((hrun patches).lost hyes).not_same hsame, (hrun patches).kept⟩
  · intro done written path made entry s hresolve hm he
    have hs := (hrun done).grounded hg
    rw [resolve, (hrun done).base_eq] at hresolve
    rw [(hrun done).base_eq] at hs
    exact entry_inside hs hresolve hm he

/-! ### A link that leads back -/

/-- A base `/w` with a link out of it to `/o`, and a link there that leads back to the
file `/w/f`. -/
def turnedBack : FileTree where
  entries := [([['w']], .directory), ([['w'], ['f']], .file []),
    ([['w'], ['a']], .link "../o".toList), ([['o']], .directory),
    ([['o'], ['b']], .link "../w/f".toList)]

theorem turnedBack_grounded : Grounded turnedBack [['w']] :=
  ⟨closed_of_entries (by decide), rfl, rfl⟩

/-- The file patch that deletes `a/b` takes away the link `/o/b`. -/
theorem outside_link_deleted : Grounded turnedBack [['w']] ∧
    ¬ ∀ path, ¬ Path.Below [['w']] path →
      (executeAll { base := [['w']], dryRun := false, tree := turnedBack }
        [⟨"a/b".toList, [], .deleteFile⟩]).1.tree.get? path = turnedBack.get? path := by
  refine ⟨turnedBack_grounded, fun h => ?_⟩
  have hout : ¬ Path.Below [['w']] [['o'], ['b']] := by
    rintro ⟨hp, -⟩
    revert hp
    decide
  have hlink := h [['o'], ['b']] hout
  revert hlink
  decide

/-- The file patch that deletes `f` does not stray, though `a/b` leads to the same file. -/
theorem outside_unchanged_turnedBack : Grounded turnedBack [['w']] ∧
    ∀ path, ¬ Path.Below [['w']] path →
      (executeAll { base := [['w']], dryRun := false, tree := turnedBack }
        [⟨"f".toList, [], .deleteFile⟩]).1.tree.get? path = turnedBack.get? path := by
  refine ⟨turnedBack_grounded,
    ((outside_unchanged_iff turnedBack_grounded {}).1 [⟨"f".toList, [], .deleteFile⟩]).2 ?_⟩
  rintro (⟨-, path, hpath, entry, target, he, -, hlink⟩ | hrest)
  · obtain rfl : [['w'], ['f']] = path := by
      have hf : resolve { base := [['w']], dryRun := false, tree := turnedBack } "f".toList =
          .ok [['w'], ['f']] := by decide
      exact Except.ok.inj (hf.symm.trans hpath)
    obtain rfl : [['w'], ['f']] = entry := by
      have hf : turnedBack.entryOf [['w'], ['f']] = .ok [['w'], ['f']] := by decide
      exact Except.ok.inj (hf.symm.trans he)
    revert hlink
    simp [turnedBack, get?]
  · exact hrest

end Session

end Emend
