import Emend.Proofs.Workspace.LinkFree
import Emend.Proofs.Workspace.Transfer
/-!
# Operations on a tree without links

Below a base without links the entry of a path is the path itself, and what is there decides
everything: where a path leads, or why it leads nowhere (`Bare.canonical_concat`), and what
comes of making a directory (`Bare.ensureDir_eq`).

`makeDirs` looks for the nearest directory that is there before it makes the first one.
`Bare.makeDirs_concat_eq` says the same from above: the directories of the rest of a path are
made first, and then the last one, unless the path is refused as a whole.
-/

namespace Emend

open FileTree

namespace FileTree

variable {tree : FileTree} {above : Path} {name : Text}

/-! ## Entries and where a path leads -/

/-- A path without an entry leads nowhere, for the same reason. -/
theorem canonical_of_entryOf_error {e : FileError} (hname : Path.isPlain name = true)
    (h : tree.entryOf (above ++ [name]) = .error e) :
    tree.canonical (above ++ [name]) = .error e := by
  rw [entryOf_concat] at h
  cases hnul : (above ++ [name]).any Path.hasNul with
  | true =>
      rw [hnul, if_pos rfl, Except.error.injEq] at h
      rw [canonical, locate, if_pos hnul, h]
  | false =>
  rw [hnul, if_neg Bool.false_ne_true] at h
  obtain ⟨hnulAbove, -⟩ := Bool.or_eq_false_iff.1 (List.any_append ▸ hnul)
  rcases leads_or_error tree maxLinks above [] with ⟨m, dir, hs⟩ | ⟨e', he'⟩
  · have hdir : tree.canonical above = .ok dir := canonical_eq_ok.2 ⟨hnulAbove, m, hs⟩
    obtain ⟨k, hk⟩ := locate_concat true hnul hdir
    obtain ⟨hdot, hup⟩ := Path.isPlain_iff.1 hname
    rw [hdir, Except.bind] at h
    rw [canonical, hk]
    split at h
    · next hd =>
      split at h
      · next hl => rw [walk_long hd hdot hup hl, Except.error.inj h]
      · cases h
    · next hd => rw [walk_notDirectory hd, Except.error.inj h]
  · have habove : tree.canonical above = .error e' := by
      have hw := he' true [] (.inr rfl)
      rw [List.append_nil] at hw
      rw [canonical, locate, if_neg (by simp [hnulAbove]), hw]
    rw [habove, Except.bind, Except.error.injEq] at h
    rw [canonical, locate, if_neg (by simp [hnul]), he' true [name] (.inr rfl), h]

/-- Nothing is found at a path if nothing is at its entry. -/
theorem canonical_of_missing {entry : Path} (hname : Path.isPlain name = true)
    (h : tree.entryOf (above ++ [name]) = .ok entry) (hnode : tree.get? entry = none) :
    tree.canonical (above ++ [name]) = .error .notFound := by
  obtain ⟨m, dir, rfl, hd, hn, hm⟩ := locate_of_entryOf hname true h
  rw [canonical, hm, walk_missing hd hn hnode]

theorem makeDir_of_error {path : Path} {e : FileError} (h : tree.entryOf path = .error e) :
    tree.makeDir path = .error e := by
  rw [makeDir, h]
  rfl

/-- In a directory that is there, nothing is missing for another one. -/
theorem makeDir_ne_notFound {dir : Path} (hnul : (above ++ [name]).any Path.hasNul = false)
    (hdir : tree.canonical above = .ok dir) (hd : tree.get? dir = some .directory) :
    tree.makeDir (above ++ [name]) ≠ .error .notFound := by
  have hentry := entryOf_concat tree above name
  rw [hnul, if_neg Bool.false_ne_true, hdir, Except.bind, if_pos hd] at hentry
  cases hlong : Path.isLong name with
  | true =>
      rw [hlong, if_pos rfl] at hentry
      simp [makeDir_of_error hentry]
  | false =>
      rw [hlong, if_neg Bool.false_ne_true] at hentry
      rw [makeDir, hentry]
      simp only [bind, Except.bind, pure, Except.pure, throw, throwThe, MonadExceptOf.throw]
      split <;> simp

theorem isDirectory_of_error {path : Path} {e : FileError} (h : tree.canonical path = .error e) :
    tree.isDirectory path = false := by
  rw [isDirectory, target?_of_error h]
  rfl

/-- A file can take the place of a file or of nothing only. -/
theorem file_of_writeEntry {path entry : Path} (hw : tree.writeEntry path = .ok entry) :
    ∀ node, tree.get? entry = some node → ∃ bytes, node = .file bytes := by
  intro node hnode
  rcases writeEntry_eq_ok.1 hw with ⟨hc, hd⟩ | ⟨-, -, hnone⟩
  · obtain ⟨found, hfound, hlink⟩ := (isPlace_of_canonical hc).found
    rw [hnode, Option.some.injEq] at hfound
    subst hfound
    cases node with
    | file bytes => exact ⟨bytes, rfl⟩
    | directory => exact absurd hnode hd
    | link target => exact absurd rfl (hlink target)
  · rw [hnode] at hnone
    cases hnone

end FileTree

/-- A tree with a base below which there is no link. -/
structure Bare (base : Path) (tree : FileTree) : Prop where
  /-- The base is one. -/
  grounded : Grounded tree base
  /-- There is no link below it. -/
  linkFree : LinkFree base tree

namespace Bare

variable {base path above : Path} {name : Text} {tree new : FileTree} (h : Bare base tree)

include h

theorem tame (ht : Tame tree new) : Bare base new :=
  ⟨ht.grounded h.grounded, ht.linkFree h.linkFree⟩

/-- Directories lead to the base. -/
theorem directory_of_prefix (hpath : path <+: base) : tree.get? path = some .directory := by
  obtain ⟨rest, rfl⟩ := hpath
  by_cases hrest : rest = []
  · subst hrest
    rw [← List.append_nil path]
    exact h.grounded.directory
  · exact (isPlace_of_canonical h.grounded.leads).straight.above.2 hrest

theorem canonical_of_prefix (hpath : path <+: base) : tree.canonical path = .ok path := by
  have hd := h.directory_of_prefix hpath
  obtain ⟨rest, rfl⟩ := hpath
  obtain ⟨hnul, -⟩ := canonical_eq_ok.1 h.grounded.leads
  rw [List.any_append, Bool.or_eq_false_iff] at hnul
  have hstraight := (isPlace_of_canonical h.grounded.leads).straight.above.1
  exact (IsPlace.of_directory hstraight hd).canonical hnul.1

/-- On the way to the base all directories are there. -/
theorem makeDirs_of_prefix (hpath : path <+: base) : tree.makeDirs path = (tree, .ok ()) := by
  refine makeDirs_of_directory (fun n hn => ?_) (h.canonical_of_prefix hpath)
    (h.directory_of_prefix hpath)
  exact Path.isPlain_of_isName (h.grounded.names n (hpath.subset hn))

theorem not_link {above : Path} {name : Text} (habove : base <+: above) (target : Text) :
    tree.get? (above ++ [name]) ≠ some (.link target) :=
  h.linkFree _ (Path.below_concat habove name) target

theorem entryOf_cases (hpath : Path.IsFrom base path) :
    tree.entryOf path = .ok path ∨ ∃ e, tree.entryOf path = .error e := by
  cases he : tree.entryOf path with
  | error e => exact .inr ⟨e, rfl⟩
  | ok entry => exact .inl (by rw [(entryOf_eq h.grounded h.linkFree hpath he).1])

section Last

variable (hpath : Path.IsFrom base (above ++ [name])) (habove : base <+: above)

include hpath habove

omit h in
theorem isFrom_above : Path.IsFrom base above :=
  ⟨habove, fun n hn => hpath.plain n (List.mem_append_left _ hn)⟩

/-- Where a path leads: to itself if there is something. -/
theorem canonical_concat : tree.canonical (above ++ [name]) =
    (tree.entryOf (above ++ [name])).bind fun _ =>
      if (tree.get? (above ++ [name])).isSome then .ok (above ++ [name])
      else .error .notFound := by
  have hname := hpath.plain name (by simp)
  rcases h.entryOf_cases hpath with he | ⟨e, he⟩
  · rw [he, Except.bind]
    cases hnode : tree.get? (above ++ [name]) with
    | none => exact canonical_of_missing hname he hnode
    | some node =>
        refine canonical_of_entry hname he hnode fun target hlink => ?_
        exact h.not_link habove target (hlink ▸ hnode)
  · rw [he, Except.bind]
    exact canonical_of_entryOf_error hname he

/-- What comes of making a directory where the directory above may be there. -/
theorem ensureDir_eq : tree.ensureDir (above ++ [name]) =
    match tree.entryOf (above ++ [name]), tree.get? (above ++ [name]) with
    | .error e, _ => (tree, .error e)
    | .ok _, none => (tree.put (above ++ [name]) .directory, .ok ())
    | .ok _, some .directory => (tree, .ok ())
    | .ok _, some _ => (tree, .error .alreadyExists) := by
  have hcanonical := h.canonical_concat hpath habove
  rcases h.entryOf_cases hpath with he | ⟨e, he⟩
  · cases hnode : tree.get? (above ++ [name]) with
    | none => rw [he, ensureDir, makeDir_eq_ok.2 ⟨_, he, hnode, rfl, rfl⟩]
    | some node =>
        have hmake : tree.makeDir (above ++ [name]) = .error .alreadyExists := by
          simp [makeDir, he, hnode, bind, Except.bind, throw, throwThe, MonadExceptOf.throw]
        rw [he, hnode] at hcanonical
        rw [he, ensureDir, hmake, isDirectory, target?_of_canonical hcanonical, hnode]
        cases node <;> rfl
  · rw [he] at hcanonical
    rw [he, ensureDir, makeDir_of_error he, isDirectory_of_error hcanonical]
    rfl

end Last

/-- To a path that leads nowhere, be it for another reason than that something is missing, no
directories are made. -/
theorem makeDirs_of_error (hpath : Path.IsFrom base path) {e : FileError}
    (he : tree.canonical path = .error e) (hne : e ≠ .notFound) :
    tree.makeDirs path = (tree, .error e) := by
  rcases List.eq_nil_or_concat path with rfl | ⟨above, name, rfl⟩
  · rw [canonical_nil] at he
    cases he
  rw [List.concat_eq_append] at hpath he ⊢
  rcases List.prefix_concat_iff.1 hpath.within with rfl | habove
  · rw [h.grounded.leads] at he
    cases he
  have hcanonical := h.canonical_concat hpath habove
  rw [he] at hcanonical
  rcases h.entryOf_cases hpath with hentry | ⟨e', hentry⟩
  · rw [hentry, Except.bind] at hcanonical
    split at hcanonical
    · cases hcanonical
    · exact absurd (Except.error.inj hcanonical) hne
  · rw [hentry, Except.bind, Except.error.injEq] at hcanonical
    subst hcanonical
    have hensure := h.ensureDir_eq hpath habove
    rw [hentry] at hensure
    rw [makeDirs_concat, makeDir_of_error hentry]
    split
    · next heq => exact absurd (Except.error.inj heq) hne
    · exact hensure

/-- The directories of a path are made from above, unless the path is refused as a whole:
for a character that no name holds, or for a file in the place of the directory above. -/
theorem makeDirs_concat_eq (hpath : Path.IsFrom base (above ++ [name])) (habove : base <+: above) :
    tree.makeDirs (above ++ [name]) =
      if (above ++ [name]).any Path.hasNul then (tree, .error .nulInPath)
      else if (tree.file? above).isSome then (tree, .error .notDirectory)
      else match tree.makeDirs above with
        | (made, .ok ()) => made.ensureDir (above ++ [name])
        | (made, .error e) => (made, .error e) := by
  have hfrom := isFrom_above hpath habove
  -- Where there is no entry, the fault is the one that the entry has.
  have hfault : ∀ e, tree.entryOf (above ++ [name]) = .error e → e ≠ .notFound →
      tree.makeDirs (above ++ [name]) = (tree, .error e) := fun e he hne =>
    h.makeDirs_of_error hpath (canonical_of_entryOf_error (hpath.plain name (by simp)) he) hne
  have hentry := entryOf_concat tree above name
  split
  · next hnul =>
    rw [if_pos hnul] at hentry
    exact hfault _ hentry (by simp)
  · next hnul =>
    rw [if_neg hnul] at hentry
    cases hc : tree.canonical above with
    | error e =>
        rw [hc, Except.bind] at hentry
        have hfile : tree.file? above = none := by
          rw [FileTree.file?, target?_of_error hc]
        rw [hfile, Option.isSome_none, if_neg Bool.false_ne_true]
        by_cases hne : e = .notFound
        · subst hne
          have hmake : tree.makeDirs (above ++ [name]) = _ := makeDirs_concat tree above name
          rw [makeDir_of_error hentry] at hmake
          exact hmake
        · rw [hfault e hentry hne, h.makeDirs_of_error hfrom hc hne]
    | ok dir =>
        obtain rfl := canonical_eq h.grounded h.linkFree hfrom hc
        rw [hc, Except.bind] at hentry
        obtain ⟨node, hnode, hlink⟩ := (isPlace_of_canonical hc).found
        have htarget := (target?_of_canonical hc).trans hnode
        cases node with
        | link target => exact absurd rfl (hlink target)
        | file bytes =>
            rw [hnode, if_neg (by simp)] at hentry
            rw [FileTree.file?, htarget, Option.isSome_some, if_pos rfl]
            exact hfault _ hentry (by simp)
        | directory =>
            -- The directory above is there, so nothing is missing.
            have hmake := makeDir_ne_notFound (Bool.not_eq_true _ ▸ hnul) hc hnode
            rw [FileTree.file?, htarget, Option.isSome_none, if_neg Bool.false_ne_true,
              makeDirs_of_directory hfrom.plain hc hnode, makeDirs_concat]
            split
            · next heq => exact absurd heq hmake
            · rfl

/-! ## Files at a path -/

section Files

variable (hpath : Path.IsFrom base path)

include hpath

/-- What comes of putting a file at a path. -/
theorem replaceFile_eq (bytes : Bytes) : tree.replaceFile path bytes =
    if path.isEmpty then .error .noParent
    else if path.any Path.hasNul then .error .invalidArgument
    else (tree.entryOf path).bind fun _ =>
      if tree.get? path = some .directory then .error .isDirectory
      else .ok (tree.put path (.file bytes)) := by
  unfold FileTree.replaceFile
  cases path.isEmpty with
  | true => rfl
  | false =>
  cases path.any Path.hasNul with
  | true => rfl
  | false =>
  rcases h.entryOf_cases hpath with he | ⟨e, he⟩
  · rw [he]
    by_cases hd : tree.get? path = some .directory <;>
      simp [hd, bind, Except.bind, pure, Except.pure, throw, throwThe, MonadExceptOf.throw]
  · rw [he]
    rfl

/-- Where a file is written to at a path: at the path, if it can be written. -/
theorem writeEntry_eq : tree.writeEntry path =
    match tree.canonical path with
    | .ok _ => if tree.get? path = some .directory then .error .isDirectory else .ok path
    | .error .notFound => (tree.entryOf path).bind fun _ =>
      if (tree.get? path).isSome then .error .notFound else .ok path
    | .error e => .error e := by
  unfold FileTree.writeEntry
  cases hc : tree.canonical path with
  | ok place =>
      obtain rfl := canonical_eq h.grounded h.linkFree hpath hc
      rfl
  | error e =>
      cases e with
      | notFound =>
          rcases h.entryOf_cases hpath with he | ⟨e, he⟩
          · by_cases hthere : (tree.get? path).isSome <;>
              simp [he, hthere, bind, Except.bind, pure, Except.pure, throw, throwThe,
                MonadExceptOf.throw]
          · rw [he]
            rfl
      | alreadyExists | notDirectory | isDirectory | invalidArgument | nameTooLong
      | tooManyLinks | nulInPath | noParent | other => rfl

/-- A file that is found at a path is there, and it is the entry of the path. -/
theorem entry_of_file {bytes : Bytes} (hfile : tree.file? path = some bytes) :
    tree.get? path = some (.file bytes) ∧ tree.entryOf path = .ok path := by
  obtain ⟨place, hplace, hnode⟩ := file?_eq_some.1 hfile
  obtain rfl := canonical_eq h.grounded h.linkFree hpath hplace
  obtain ⟨entry, he, -⟩ := FileTree.entry_of_file hpath.plain hplace hnode
  rcases h.entryOf_cases hpath with he' | ⟨e, he'⟩
  · exact ⟨hnode, he'⟩
  · rw [he] at he'
    cases he'

/-- What comes of copying a file to another path. -/
theorem copyFile_eq {source : Path} (hsource : Path.IsFrom base source) (hne : source ≠ path)
    {bytes : Bytes} (hfile : tree.file? source = some bytes) : tree.copyFile id source path =
      (tree.writeEntry path).map fun _ => tree.put path (.file bytes) := by
  have hread : tree.read source = .ok bytes := read_eq_ok.2 hfile
  cases hw : tree.writeEntry path with
  | error e =>
      unfold FileTree.copyFile
      rw [hread, hw]
      rfl
  | ok entry =>
      obtain ⟨rfl, -⟩ := Emend.writeEntry_eq h.grounded h.linkFree hpath hw
      obtain ⟨place, hplace, hheld⟩ := file?_eq_some.1 hfile
      obtain rfl := canonical_eq h.grounded h.linkFree hsource hplace
      have hroot := (inDirectory_of_writeEntry hw).ne_nil
      have hkeeps : Keeps tree (tree.put entry (.file [])) :=
        .put_file tree hroot [] (file_of_writeEntry hw)
      have hemptied := read_emptied hroot (canonical_keeps hkeeps hplace) hheld
      rw [if_neg (Ne.symm hne)] at hemptied
      exact copyFile_eq_ok.2 ⟨bytes, entry, bytes, hread, hw, hemptied, rfl⟩

end Files

end Bare

end Emend
