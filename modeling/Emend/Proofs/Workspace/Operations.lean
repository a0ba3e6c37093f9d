import Emend.Proofs.Workspace.Guard
import Emend.Workspace.Session
/-!
# What a real run does to the tree

The base of a session is a directory to which no link is on the way (`Grounded`).  A
real run changes the tree in three ways: it makes directories, it puts files at
entries, and it takes entries away (`Strikes`).  No directory is lost by that and no
link is made (`Tame`), so the base stays what it is.

`write_cases`, `remove_cases` and `copyIn_cases` say what each operation comes to, both
when it succeeds and when it fails, whatever it is refused.
-/

namespace Emend

open FileTree

/-- A path is the base directory of sessions on a tree. -/
structure Grounded (tree : FileTree) (base : Path) : Prop where
  /-- Every entry is in a directory. -/
  closed : tree.Closed
  /-- No link is on the way to the base. -/
  leads : tree.canonical base = .ok base
  /-- The base is a directory. -/
  directory : tree.get? base = some .directory

namespace Grounded

variable {tree : FileTree} {base path : Path} {written : Text}

/-- What a path leads to can be a base if it is a directory. -/
theorem of_canonical (hclosed : tree.Closed) (hnul : base.any Path.hasNul = false)
    (h : tree.canonical path = .ok base) (hd : tree.get? base = some .directory) :
    Grounded tree base :=
  ⟨hclosed, (isPlace_of_canonical h).canonical hnul, hd⟩

theorem names (h : Grounded tree base) : ∀ n ∈ base, Path.isName n = true :=
  (isPlace_of_canonical h.leads).straight.names

/-- What a written path stands for has plain names, and the guard lets it pass. -/
theorem of_resolve (h : Grounded tree base) (hr : Guard.resolve tree base written = .ok path) :
    (∀ n ∈ path, Path.isPlain n = true) ∧ Guard.Allows tree base path := by
  obtain ⟨names, rfl, hplain, hallows⟩ := Guard.resolve_eq_ok hr
  refine ⟨fun n hn => ?_, hallows⟩
  rcases List.mem_append.1 hn with hn | hn
  · obtain ⟨hdot, hup, -⟩ := Path.isName_iff.1 (h.names n hn)
    exact Path.isPlain_iff.2 ⟨hdot, hup⟩
  · exact hplain n hn

end Grounded

namespace FileTree

variable {base : Path} {old mid new : FileTree}

/-! ## Changes of the tree -/

/-- A change by which no directory is lost and no link is made. -/
structure Tame (old new : FileTree) : Prop where
  /-- Every entry is in a directory. -/
  closed : new.Closed
  /-- No directory is lost. -/
  directories : ∀ path, old.get? path = some .directory → new.get? path = some .directory
  /-- No link is made. -/
  links : ∀ path target, new.get? path = some (.link target) →
    old.get? path = some (.link target)

theorem Tame.refl (h : old.Closed) : Tame old old :=
  ⟨h, fun _ => id, fun _ _ => id⟩

theorem Tame.trans (h₁ : Tame old mid) (h₂ : Tame mid new) : Tame old new :=
  ⟨h₂.closed, fun path hd => h₂.directories path (h₁.directories path hd),
    fun path target hl => h₁.links path target (h₂.links path target hl)⟩

theorem Grows.tame (h : Grows base old new) (hclosed : new.Closed) : Tame old new := by
  refine ⟨hclosed, fun path => h.keeps.directory, fun path target hl => ?_⟩
  rw [← h.get?_of_ne (by rw [hl]; simp), hl]

theorem Straight.tame (ht : Tame old new) {path : Path} (h : Straight old path) :
    Straight new path := by
  induction h with
  | root => exact .root
  | entry _ hd hn ih => exact .entry ih (ht.directories _ hd) hn

theorem Tame.grounded (ht : Tame old new) (h : Grounded old base) : Grounded new base := by
  have hd := ht.directories base h.directory
  have hplace : IsPlace new base :=
    .of_directory ((isPlace_of_canonical h.leads).straight.tame ht) hd
  exact ⟨ht.closed, hplace.canonical (canonical_eq_ok.1 h.leads).1, hd⟩

/-- At an entry that is no directory a file is put, or the entry is taken away. -/
inductive Strikes (entry : Path) (old : FileTree) : FileTree → Prop where
  /-- A file is put there. -/
  | put (bytes : Bytes) : Strikes entry old (old.put entry (.file bytes))
  /-- What is there is taken away. -/
  | erase : Strikes entry old (old.erase entry)

namespace Strikes

variable {entry : Path}

theorem get?_of_ne (h : Strikes entry old new) (hne : entry ≠ []) {path : Path}
    (hp : path ≠ entry) : new.get? path = old.get? path := by
  cases h with
  | put bytes => exact get?_put_of_ne hne _ old hp
  | erase => rw [get?_erase hne, if_neg hp]

theorem no_link (h : Strikes entry old new) (hne : entry ≠ []) (target : Text) :
    new.get? entry ≠ some (.link target) := by
  cases h with
  | put bytes => simp [get?_put_self hne]
  | erase => simp [get?_erase hne]

theorem tame (h : Strikes entry old new) (hclosed : old.Closed) (hin : InDirectory old entry)
    (hd : old.get? entry ≠ some .directory) : Tame old new := by
  have hne := hin.ne_nil
  refine ⟨?_, fun other hother => ?_, fun other target hother => ?_⟩
  · cases h with
    | put bytes => exact hclosed.put hin (.inl hd)
    | erase => exact hclosed.erase hne hd
  · rw [h.get?_of_ne hne, hother]
    rintro rfl
    exact hd hother
  · by_cases heq : other = entry
    · subst heq
      exact absurd hother (h.no_link hne target)
    · rw [← h.get?_of_ne hne heq, hother]

end Strikes

end FileTree

namespace Session

variable {s : Session} {path : Path}

/-! ## The operations of a real run -/

/-- A real run: nothing is staged. -/
structure Real (s : Session) : Prop where
  /-- It is no dry run. -/
  dryRun : s.dryRun = false
  /-- Nothing is staged. -/
  staged : ∀ path, s.staged path = none

theorem Real.file?_eq (h : s.Real) (path : Path) : s.file? path = s.tree.file? path := by
  rw [file?, h.staged]

/-- A change is made, or it was refused or failed and nothing changes. -/
theorem change_cases (s : Session) (refusal : Option FileError)
    (f : FileTree → Except FileError FileTree) :
    (∃ new, refusal = none ∧ f s.tree = .ok new ∧
        s.change refusal f = ({ s with tree := new }, .ok ())) ∨
      ∃ e, s.change refusal f = (s, .error e) := by
  cases refusal with
  | some e => exact .inr ⟨e, rfl⟩
  | none =>
  cases hf : f s.tree with
  | error e => exact .inr ⟨e, by simp [change, hf]⟩
  | ok new => exact .inl ⟨new, rfl, rfl, by simp [change, hf]⟩

/-- An operation that needs the directory of a path is done when it has been made, or
nothing but directories has been made. -/
theorem changeIn_cases (s : Session) (path : Path)
    (op : Session → Session × Except FileError Unit) :
    ∃ made res, s.tree.makeDirs path.dropLast s.refusals = (made, res) ∧
      ((res = .ok () ∧ s.changeIn path op = op { s with tree := made }) ∨
        ∃ e, s.changeIn path op = ({ s with tree := made }, .error e)) := by
  cases hm : s.tree.makeDirs path.dropLast s.refusals with
  | mk made res =>
  refine ⟨made, res, rfl, ?_⟩
  cases res with
  | error e => exact .inr ⟨e, by simp [changeIn, hm]⟩
  | ok u => exact .inl ⟨rfl, by simp [changeIn, hm]⟩

section Real

variable (hreal : s.dryRun = false)

include hreal

theorem write_real (path : Path) (bytes : Bytes) :
    s.write path bytes = s.changeIn path (replace path bytes) := by
  rw [write, hreal]
  rfl

theorem remove_real (path : Path) : s.remove path =
    s.change (s.refusals.remove s.tree path) (FileTree.remove path) := by
  rw [remove, hreal]
  rfl

theorem move_real (source path : Path) : s.move source path =
    match s.changeIn path (copy source path) with
    | (s, .ok ()) => s.remove source
    | (s, .error e) => (s, .error e) := by
  rw [move, hreal]
  rfl

end Real

/-- A file is written, or nothing but directories is made. -/
theorem write_cases (hreal : s.dryRun = false) (path : Path) (bytes : Bytes) :
    ∃ made res, s.tree.makeDirs path.dropLast s.refusals = (made, res) ∧
      ((∃ entry, res = .ok () ∧ made.entryOf path = .ok entry ∧
          made.get? entry ≠ some .directory ∧
          s.write path bytes = ({ s with tree := made.put entry (.file bytes) }, .ok ())) ∨
        ∃ e, s.write path bytes = ({ s with tree := made }, .error e)) := by
  obtain ⟨made, res, hm, ⟨hres, hop⟩ | ⟨e, hfail⟩⟩ := s.changeIn_cases path (replace path bytes)
  · refine ⟨made, res, hm, ?_⟩
    rw [write_real hreal, hop, replace]
    rcases change_cases _ _ (replaceFile path bytes) with ⟨new, -, hnew, hchange⟩ | ⟨e, hchange⟩
    · obtain ⟨entry, he, hd, rfl⟩ := replaceFile_eq_ok.1 hnew
      exact .inl ⟨entry, hres, he, hd, hchange⟩
    · exact .inr ⟨e, hchange⟩
  · exact ⟨made, res, hm, .inr ⟨e, by rw [write_real hreal, hfail]⟩⟩

/-- An entry that is no directory is taken away, or nothing changes. -/
theorem remove_cases (hreal : s.dryRun = false) (path : Path) :
    (∃ entry node, s.tree.entryOf path = .ok entry ∧ s.tree.get? entry = some node ∧
        node ≠ .directory ∧
        s.remove path = ({ s with tree := s.tree.erase entry }, .ok ())) ∨
      ∃ e, s.remove path = (s, .error e) := by
  rw [remove_real hreal]
  rcases s.change_cases _ (FileTree.remove path) with ⟨new, -, hnew, hchange⟩ | hfail
  · obtain ⟨entry, node, he, hnode, hd, rfl⟩ := remove_eq_ok.1 hnew
    exact .inl ⟨entry, node, he, hnode, hd, hchange⟩
  · exact .inr hfail

/-- How much is kept of the bytes that are copied from one path to another: all of them, or
a front part if the copy was broken off. -/
def Keeping (s : Session) (source path : Path) (bytes kept : Bytes)
    (res : Except FileError Unit) : Prop :=
  (res = .ok () ∧ kept = bytes) ∨
    ∃ count e, s.refusals.copyFile s.tree source path = some (.broken count e) ∧
      res = .error e ∧ kept = bytes.take count

/-- A copy that comes to its end keeps all of the bytes. -/
theorem Keeping.eq_bytes {source : Path} {bytes kept : Bytes}
    (h : s.Keeping source path bytes kept (.ok ())) : kept = bytes := by
  rcases h with ⟨-, h⟩ | ⟨_, _, -, h, -⟩
  · exact h
  · cases h

/-- Bytes are copied, be it all or some of them, or nothing changes. -/
theorem copy_cases (s : Session) (source path : Path) :
    (∃ entry bytes kept res, s.tree.writeEntry path = .ok entry ∧
        (s.tree.put entry (.file [])).read source = .ok bytes ∧
        s.Keeping source path bytes kept res ∧
        s.copy source path = ({ s with tree := s.tree.put entry (.file kept) }, res)) ∨
      ∃ e, s.copy source path = (s, .error e) := by
  unfold copy
  split
  · rcases s.change_cases none (copyFile id source path) with ⟨new, -, hnew, hchange⟩ | hfail
    · obtain ⟨-, entry, bytes, -, hw, hread, rfl⟩ := copyFile_eq_ok.1 hnew
      exact .inl ⟨entry, bytes, bytes, .ok (), hw, hread, .inl ⟨rfl, rfl⟩, hchange⟩
    · exact .inr hfail
  · next e _ => exact .inr ⟨e, rfl⟩
  · next count e hbroken =>
    split
    · next new hnew =>
      obtain ⟨-, entry, bytes, -, hw, hread, rfl⟩ := copyFile_eq_ok.1 hnew
      exact .inl ⟨entry, bytes, _, .error e, hw, hread, .inr ⟨count, e, hbroken, rfl, rfl⟩, rfl⟩
    · next e _ => exact .inr ⟨e, rfl⟩

/-- Bytes are copied to a path, or nothing but directories is made. -/
theorem copyIn_cases (s : Session) (source path : Path) :
    ∃ made res, s.tree.makeDirs path.dropLast s.refusals = (made, res) ∧
      ((∃ entry bytes kept out, res = .ok () ∧ made.writeEntry path = .ok entry ∧
          (made.put entry (.file [])).read source = .ok bytes ∧
          Keeping { s with tree := made } source path bytes kept out ∧
          s.changeIn path (copy source path) =
            ({ s with tree := made.put entry (.file kept) }, out)) ∨
        ∃ e, s.changeIn path (copy source path) = ({ s with tree := made }, .error e)) := by
  obtain ⟨made, res, hm, ⟨hres, hop⟩ | hfail⟩ := s.changeIn_cases path (copy source path)
  · refine ⟨made, res, hm, ?_⟩
    rw [hop]
    rcases copy_cases { s with tree := made } source path with
      ⟨entry, bytes, kept, out, hw, hread, hkeeping, hcopy⟩ | hfail
    · exact .inl ⟨entry, bytes, kept, out, hres, hw, hread, hkeeping, hcopy⟩
    · exact .inr hfail
  · exact ⟨made, res, hm, .inr hfail⟩

/-- A file is moved by a copy of it and its removal. -/
theorem move_cases (hreal : s.dryRun = false) (source path : Path) :
    (∃ mid e, s.changeIn path (copy source path) = (mid, .error e) ∧
        s.move source path = (mid, .error e)) ∨
      ∃ mid, s.changeIn path (copy source path) = (mid, .ok ()) ∧
        s.move source path = mid.remove source := by
  cases hc : s.changeIn path (copy source path) with
  | mk mid res =>
  cases res with
  | error e => exact .inl ⟨mid, e, rfl, by rw [move_real hreal, hc]⟩
  | ok u => exact .inr ⟨mid, rfl, by rw [move_real hreal, hc]⟩

end Session

end Emend
