import Emend.Proofs.Files.Growth
import Emend.Workspace.Guard
/-!
# What the guard lets pass

The guard lets a path pass if the nearest path above it at which there is something
leads into the base (`Allows`).  Two cases follow from this.

* There is something at the path itself, which then leads into the base
  (`Allows.cases`).
* There is nothing at the path.  Then the directories above it that are missing are
  made below the base, and the last of them is in the base (`makeDirs_made`).

The names of a path that passes are plain: none is a dot or two dots
(`resolve_eq_ok`).
-/

namespace Emend

open FileTree

namespace Guard

variable {tree : FileTree} {base path : Path}

/-! ## Folded names -/

theorem fold_plain {parts : List Text} {names result : Path}
    (h : fold names parts = some result) (hn : ∀ n ∈ names, Path.isPlain n = true) :
    ∀ n ∈ result, Path.isPlain n = true := by
  induction parts generalizing names with
  | nil =>
      cases h
      exact hn
  | cons part rest ih =>
      rw [fold] at h
      split at h
      · exact ih h hn
      · next hdot =>
        split at h
        · split at h
          · cases h
          · exact ih h fun n hmem => hn n (List.dropLast_subset names hmem)
        · next hup =>
          refine ih h fun n hmem => ?_
          rcases List.mem_append.1 hmem with hmem | hmem
          · exact hn n hmem
          · rw [List.mem_singleton.1 hmem]
            exact Path.isPlain_iff.2 ⟨by simpa using hdot, by simpa using hup⟩

/-! ## The nearest path at which there is something -/

theorem nearest_concat (tree : FileTree) (above : Path) (name : Text) :
    nearest tree (above ++ [name]).reverse =
      if tree.isThere (above ++ [name]) then above ++ [name]
      else nearest tree above.reverse := by
  rw [List.reverse_concat, nearest]
  simp [isThere]

/-- The nearest path at which there is something leads into the base. -/
def Allows (tree : FileTree) (base path : Path) : Prop :=
  ∃ place, tree.canonical (nearest tree path.reverse) = .ok place ∧ base <+: place

theorem check_eq_ok : check tree base path = .ok () ↔ Allows tree base path := by
  cases hc : tree.canonical (nearest tree path.reverse) with
  | ok place =>
      cases hw : Path.isWithin base place with
      | true => simp [check, Allows, hc, hw, Path.isWithin_iff.1 hw]
      | false =>
          have hno : ¬ base <+: place := fun h => by simp [Path.isWithin_iff.2 h] at hw
          simp [check, Allows, hc, hw, hno]
  | error e => cases hl : tree.isLink (nearest tree path.reverse) <;> simp [check, Allows, hc, hl]

/-- What a written path stands for is settled by its parts, and the tree decides whether the
guard lets it pass. -/
theorem resolve_iff {written : Text} : resolve tree base written = .ok path ↔
    ∃ names, Path.isAbsolute written = false ∧ fold [] (Path.parts written) = some names ∧
      path = base ++ names ∧ Allows tree base path := by
  unfold resolve
  cases Path.isAbsolute written with
  | true => simp
  | false =>
  cases fold [] (Path.parts written) with
  | none => simp
  | some names =>
  cases hc : check tree base (base ++ names) with
  | error e =>
      have hno : ¬ Allows tree base (base ++ names) := fun h => by
        rw [check_eq_ok.2 h] at hc
        cases hc
      simp only [hc, bind, Except.bind, Bool.false_eq_true, if_false, reduceCtorEq, false_iff,
        not_exists]
      rintro _ ⟨-, hnames, rfl, hpass⟩
      cases hnames
      exact hno hpass
  | ok u =>
      have hpass := check_eq_ok.1 hc
      simp only [hc, bind, Except.bind, pure, Except.pure, Bool.false_eq_true, if_false,
        Except.ok.injEq]
      constructor
      · rintro rfl
        exact ⟨names, trivial, rfl, rfl, hpass⟩
      · rintro ⟨_, -, hnames, rfl, -⟩
        cases hnames
        rfl

/-- A written path that passes stands for the base followed by plain names. -/
theorem resolve_eq_ok {written : Text} (h : resolve tree base written = .ok path) :
    ∃ names, path = base ++ names ∧ (∀ n ∈ names, Path.isPlain n = true) ∧
      Allows tree base path := by
  obtain ⟨names, -, hfold, rfl, hpass⟩ := resolve_iff.1 h
  exact ⟨names, rfl, fold_plain hfold (by simp), hpass⟩

/-- A written path stands for the same in any tree in which the guard lets it pass. -/
theorem resolve_congr {other : FileTree} {written : Text} (h : resolve tree base written = .ok path)
    {path' : Path} : resolve other base written = .ok path' ↔
      path' = path ∧ Allows other base path := by
  obtain ⟨names, habsolute, hfold, rfl, -⟩ := resolve_iff.1 h
  rw [resolve_iff]
  constructor
  · rintro ⟨_, -, hnames, rfl, hpass⟩
    rw [hfold, Option.some.injEq] at hnames
    subst hnames
    exact ⟨rfl, hpass⟩
  · rintro ⟨rfl, hpass⟩
    exact ⟨names, habsolute, hfold, rfl, hpass⟩

/-- Either a path that passes leads into the base, or there is nothing at it and
the path above it passes. -/
theorem Allows.cases {above : Path} {name : Text} (h : Allows tree base (above ++ [name])) :
    (∃ place, tree.canonical (above ++ [name]) = .ok place ∧ base <+: place) ∨
      (tree.isThere (above ++ [name]) = false ∧ Allows tree base above) := by
  unfold Allows at h
  rw [nearest_concat] at h
  cases hthere : tree.isThere (above ++ [name]) with
  | true =>
      rw [hthere, if_pos rfl] at h
      exact .inl h
  | false =>
      rw [hthere, if_neg Bool.false_ne_true] at h
      exact .inr ⟨rfl, h⟩

/-- A path that leads somewhere passes if it leads into the base. -/
theorem allows_iff {place : Path} (h : tree.canonical path = .ok place) :
    Allows tree base path ↔ base <+: place := by
  have hnearest : nearest tree path.reverse = path := by
    rcases List.eq_nil_or_concat path with rfl | ⟨above, name, rfl⟩
    · rfl
    · rw [List.concat_eq_append] at h ⊢
      rw [nearest_concat, isThere_of_canonical h, if_pos rfl]
  simp [Allows, hnearest, h]

end Guard

namespace FileTree

variable {tree : FileTree} {base : Path} {refusals : Refusals}

/-! ## Missing directories -/

theorem canonical_nil (tree : FileTree) : tree.canonical [] = .ok [] :=
  canonical_eq_ok.2 ⟨rfl, _, .here⟩

theorem makeDir_of_there {path : Path} (hplain : ∀ n ∈ path, Path.isPlain n = true)
    (h : tree.isThere path = true) : tree.makeDir path refusals = .error .alreadyExists := by
  rcases List.eq_nil_or_concat path with rfl | ⟨above, name, rfl⟩
  · rfl
  · rw [List.concat_eq_append] at h hplain ⊢
    obtain ⟨entry, node, he, hnode⟩ := (isThere_iff (hplain name (by simp))).1 h
    simp [makeDir, he, hnode, bind, Except.bind, throw, throwThe, MonadExceptOf.throw]

/-- What is there is not made again. -/
theorem ensureDir_of_there {path : Path} (hplain : ∀ n ∈ path, Path.isPlain n = true)
    (h : tree.isThere path = true) : tree.ensureDir path refusals =
      (tree, if tree.isDirectory path then .ok () else .error .alreadyExists) := by
  rw [ensureDir, makeDir_of_there hplain h]

theorem makeDirs_nil (tree : FileTree) : tree.makeDirs [] refusals = (tree, .ok ()) := by
  have hd : tree.isDirectory [] = true :=
    isDirectory_iff.2 ⟨[], canonical_nil tree, get?_nil tree⟩
  change tree.ensureDir [] refusals = _
  rw [ensureDir, show tree.makeDir [] refusals = .error .alreadyExists from rfl]
  simp [hd]

theorem makeDirs_concat (tree : FileTree) (above : Path) (name : Text) :
    tree.makeDirs (above ++ [name]) refusals =
      match tree.makeDir (above ++ [name]) refusals with
      | .error .notFound =>
        match tree.makeDirs above refusals with
        | (tree, .ok ()) => tree.ensureDir (above ++ [name]) refusals
        | (tree, .error e) => (tree, .error e)
      | _ => tree.ensureDir (above ++ [name]) refusals := by
  rw [makeDirs, List.reverse_concat, makeDirsUp]
  simp only [List.reverse_cons, List.reverse_reverse]
  rfl

theorem makeDirs_of_there {path : Path} (hplain : ∀ n ∈ path, Path.isPlain n = true)
    (h : tree.isThere path = true) : tree.makeDirs path refusals =
      (tree, if tree.isDirectory path then .ok () else .error .alreadyExists) := by
  rcases List.eq_nil_or_concat path with rfl | ⟨above, name, rfl⟩
  · have hd : tree.isDirectory [] = true :=
      isDirectory_iff.2 ⟨[], canonical_nil tree, get?_nil tree⟩
    simp [makeDirs_nil, hd]
  · rw [List.concat_eq_append] at h hplain ⊢
    rw [makeDirs_concat, makeDir_of_there hplain h]
    exact ensureDir_of_there hplain h

/-- Nothing is made where a path leads to a directory. -/
theorem makeDirs_of_directory {path dir : Path} (hplain : ∀ n ∈ path, Path.isPlain n = true)
    (hdir : tree.canonical path = .ok dir) (hd : tree.get? dir = some .directory) :
    tree.makeDirs path refusals = (tree, .ok ()) := by
  rw [makeDirs_of_there hplain (isThere_of_canonical hdir), isDirectory_iff.2 ⟨dir, hdir, hd⟩]
  rfl

/-- At a path at which there is nothing, it is a fault if no directory is made. -/
theorem ensureDir_of_error {path : Path} (hthere : tree.isThere path = false) {e : FileError}
    (h : tree.makeDir path refusals = .error e) :
    tree.ensureDir path refusals = (tree, .error e) := by
  have hno : tree.isDirectory path = false := by
    by_contra hyes
    obtain ⟨dir, hdir, -⟩ := isDirectory_iff.1 (by simpa using hyes)
    rw [isThere_of_canonical hdir] at hthere
    cases hthere
  simp [ensureDir, h, hno]

/-- What making directories has come to: all that is new are directories below the
base, and if nothing went wrong the path leads to a directory in the base, which
is new unless nothing is. -/
structure Made (base : Path) (tree : FileTree) (path : Path)
    (made : FileTree × Except FileError Unit) : Prop where
  /-- All that is new are directories below the base. -/
  grows : Grows base tree made.1
  /-- Every entry is still in a directory. -/
  closed : made.1.Closed
  /-- The path leads to a directory in the base. -/
  lands : made.2 = .ok () → ∃ dir, made.1.canonical path = .ok dir ∧
    made.1.get? dir = some .directory ∧ base <+: dir ∧
      (made.1 = tree ∨ tree.get? dir = none)

theorem Made.of_error (hclosed : tree.Closed) (path : Path) (e : FileError) :
    Made base tree path (tree, .error e) :=
  ⟨.refl base tree, hclosed, fun h => by cases h⟩

/-- Nothing was at the entry of a path at which there was nothing, be the directory
of the entry an old one or a new one. -/
theorem Made.entry {mid : FileTree} {above entry : Path} {name : Text}
    (h : Made base tree above (mid, .ok ())) (hclosed : tree.Closed)
    (hname : Path.isPlain name = true) (hthere : tree.isThere (above ++ [name]) = false)
    (he : mid.entryOf (above ++ [name]) = .ok entry) :
    ∃ dir, entry = dir ++ [name] ∧ mid.get? dir = some .directory ∧ base <+: dir ∧
      tree.get? entry = none := by
  obtain ⟨dir, hdir, hd, hbase, hnew⟩ := h.lands rfl
  obtain ⟨dir', -, hdir', -, -, rfl⟩ := entryOf_concat_eq_ok.1 he
  rw [hdir, Except.ok.injEq] at hdir'
  subst hdir'
  refine ⟨dir, rfl, hd, hbase, ?_⟩
  by_contra hne
  rcases hnew with rfl | hnew
  · obtain ⟨node, hnode⟩ := Option.ne_none_iff_exists'.1 hne
    rw [(isThere_iff hname).2 ⟨_, node, he, hnode⟩] at hthere
    cases hthere
  · rw [hclosed dir name hne] at hnew
    cases hnew

/-- What is there now, at a path at which there was nothing, is a directory. -/
theorem Made.directory {mid : FileTree} {above place : Path} {name : Text}
    (h : Made base tree above (mid, .ok ())) (hclosed : tree.Closed)
    (hname : Path.isPlain name = true) (hthere : tree.isThere (above ++ [name]) = false)
    (hplace : mid.canonical (above ++ [name]) = .ok place) :
    mid.entryOf (above ++ [name]) = .ok place ∧ mid.get? place = some .directory := by
  obtain ⟨entry, node, he, hnode, hlast⟩ := locate_concat_eq_ok hname hplace
  obtain ⟨-, -, -, -, hgone⟩ := h.entry hclosed hname hthere he
  have hd : node = .directory := by
    rcases h.grows entry with hsame | ⟨-, hdd, -⟩
    · rw [hnode, hgone] at hsame
      cases hsame
    · rw [hnode] at hdd
      exact Option.some.inj hdd
  subst hd
  obtain rfl := hlast (by simp)
  exact ⟨he, hnode⟩

/-- Where something is there already, nothing is made. -/
theorem Made.of_there (hclosed : tree.Closed) {path place : Path}
    (hplain : ∀ n ∈ path, Path.isPlain n = true) (hplace : tree.canonical path = .ok place)
    (hbase : base <+: place) : Made base tree path (tree.makeDirs path refusals) := by
  rw [makeDirs_of_there hplain (isThere_of_canonical hplace)]
  refine ⟨.refl base tree, hclosed, fun hok => ?_⟩
  have hdirectory : tree.isDirectory path = true := by
    by_contra hno
    simp [hno] at hok
  obtain ⟨dir, hdir, hd⟩ := isDirectory_iff.1 hdirectory
  rw [hplace] at hdir
  cases hdir
  exact ⟨place, hplace, hd, hbase, .inl rfl⟩

/-- Making a directory below one that leads into the base. -/
theorem Made.ensureDir {mid : FileTree} {above : Path} {name : Text}
    (h : Made base tree above (mid, .ok ())) (hclosed : tree.Closed)
    (hname : Path.isPlain name = true) (hthere : tree.isThere (above ++ [name]) = false) :
    Made base tree (above ++ [name]) (mid.ensureDir (above ++ [name]) refusals) := by
  rw [FileTree.ensureDir]
  split
  · next made hmade =>
    obtain ⟨entry, he, hfree, -, rfl⟩ := makeDir_eq_ok.1 hmade
    obtain ⟨dir, rfl, hd, hbase, hgone⟩ := h.entry hclosed hname hthere he
    have hbelow := Path.below_concat hbase name
    have hgrows : Grows base mid (mid.put (dir ++ [name]) .directory) :=
      .put_directory mid hbelow hfree
    have hself := get?_put_self hbelow.ne_nil Node.directory mid
    refine ⟨h.grows.trans hgrows, h.closed.put ⟨dir, name, rfl, hd⟩ (.inr rfl), fun _ => ?_⟩
    refine ⟨dir ++ [name], ?_, hself, hbelow.1, .inr hgone⟩
    exact canonical_of_entry hname (entryOf_keeps hgrows.keeps he) hself (by simp)
  · next e he =>
    refine ⟨h.grows, h.closed, fun hok => ?_⟩
    have hdirectory : mid.isDirectory (above ++ [name]) = true := by
      by_contra hno
      simp [hno] at hok
    obtain ⟨place, hplace, hpd⟩ := isDirectory_iff.1 hdirectory
    obtain ⟨hentry, -⟩ := h.directory hclosed hname hthere hplace
    obtain ⟨dir, rfl, -, hbase, hgone⟩ := h.entry hclosed hname hthere hentry
    exact ⟨_, hplace, hpd, (Path.below_concat hbase name).1, .inr hgone⟩

/-- Above a path that the guard lets pass, directories are made below the base. -/
theorem makeDirs_made (hclosed : tree.Closed) {path : Path}
    (hplain : ∀ n ∈ path, Path.isPlain n = true) (h : Guard.Allows tree base path) :
    Made base tree path (tree.makeDirs path refusals) := by
  induction path using List.reverseRecOn with
  | nil =>
      obtain ⟨place, hplace, hbase⟩ := h
      rw [List.reverse_nil, Guard.nearest, canonical_nil] at hplace
      cases hplace
      rw [makeDirs_nil]
      exact ⟨.refl base tree, hclosed, fun _ =>
        ⟨[], canonical_nil tree, get?_nil tree, hbase, .inl rfl⟩⟩
  | append_singleton above name ih =>
      have hname := hplain name (by simp)
      have hplain' : ∀ n ∈ above, Path.isPlain n = true := fun n hn =>
        hplain n (List.mem_append_left _ hn)
      rcases h.cases with ⟨place, hplace, hbase⟩ | ⟨hthere, habove⟩
      · exact .of_there hclosed hplain hplace hbase
      · have hmade := ih hplain' habove
        rw [makeDirs_concat]
        cases hdir : tree.makeDir (above ++ [name]) refusals with
        | ok made =>
            -- The directory above is there, so there is none to be made above it.
            obtain ⟨entry, he, -⟩ := makeDir_eq_ok.1 hdir
            obtain ⟨dir, -, habovedir, hd, -, -⟩ := entryOf_concat_eq_ok.1 he
            rw [makeDirs_of_directory hplain' habovedir hd] at hmade
            exact hmade.ensureDir hclosed hname hthere
        | error e =>
            have hfails := ensureDir_of_error hthere hdir
            cases e with
            | notFound =>
                cases hm : tree.makeDirs above refusals with
                | mk mid res =>
                rw [hm] at hmade
                cases res with
                | ok u => exact hmade.ensureDir hclosed hname hthere
                | error e => exact ⟨hmade.grows, hmade.closed, fun h => by cases h⟩
            | alreadyExists | notDirectory | isDirectory | invalidArgument | nameTooLong
            | tooManyLinks | nulInPath | noParent | other =>
                simp only [hfails]
                exact .of_error hclosed _ _

/-! ## Entries of paths that pass -/

/-- The directory of an entry is there, so none is made above it. -/
theorem makeDirs_of_entry {path entry : Path} (hplain : ∀ n ∈ path, Path.isPlain n = true)
    (h : tree.entryOf path = .ok entry) :
    tree.makeDirs path.dropLast refusals = (tree, .ok ()) := by
  obtain ⟨above, name, dir, rfl, -, hdir, hd, -, rfl⟩ := entryOf_eq_ok.1 h
  rw [List.dropLast_concat]
  exact makeDirs_of_directory (fun n hn => hplain n (List.mem_append_left _ hn)) hdir hd

section Entries

variable {mid : FileTree} {path entry : Path} {res : Except FileError Unit}
  (hclosed : tree.Closed) (hplain : ∀ n ∈ path, Path.isPlain n = true)
  (h : Guard.Allows tree base path)

include hclosed hplain h

/-- Either a path that passes leads into the base and no directory is made above it,
or there is nothing at the path. -/
theorem above_cases (hm : tree.makeDirs path.dropLast refusals = (mid, res)) :
    (mid = tree ∧ ∃ place, tree.canonical path = .ok place ∧ base <+: place) ∨
      ∃ above name, path = above ++ [name] ∧ tree.isThere path = false ∧
        Made base tree above (mid, res) := by
  rcases List.eq_nil_or_concat path with rfl | ⟨above, name, rfl⟩
  · rw [List.dropLast_nil, makeDirs_nil] at hm
    cases hm
    obtain ⟨place, hplace, hbase⟩ := h
    rw [List.reverse_nil, Guard.nearest] at hplace
    exact .inl ⟨rfl, place, hplace, hbase⟩
  rw [List.concat_eq_append] at hplain h hm ⊢
  rcases h.cases with ⟨place, hplace, hbase⟩ | ⟨hthere, habove⟩
  · obtain ⟨entry, -, he, -⟩ := locate_concat_eq_ok (hplain name (by simp)) hplace
    rw [makeDirs_of_entry hplain he] at hm
    cases hm
    exact .inl ⟨rfl, place, hplace, hbase⟩
  · rw [List.dropLast_concat] at hm
    refine .inr ⟨above, name, rfl, hthere, hm ▸ makeDirs_made hclosed (fun n hn => ?_) habove⟩
    exact hplain n (List.mem_append_left _ hn)

/-- Above a path that passes, nothing but directories is made, even if not all are. -/
theorem grows_of_makeDirs (hm : tree.makeDirs path.dropLast refusals = (mid, res)) :
    Grows base tree mid ∧ mid.Closed := by
  rcases above_cases hclosed hplain h hm with ⟨rfl, -⟩ | ⟨_, _, -, -, hmade⟩
  · exact ⟨.refl base _, hclosed⟩
  · exact ⟨hmade.grows, hmade.closed⟩

variable (hm : tree.makeDirs path.dropLast refusals = (mid, .ok ()))

include hm

/-- The entry of a path that passes is below the base, unless it was there before
and is the base itself or a link. -/
theorem entry_cases (he : mid.entryOf path = .ok entry) :
    Path.Below base entry ∨
      (mid = tree ∧ (entry = base ∨ ∃ target, tree.get? entry = some (.link target))) := by
  rcases above_cases hclosed hplain h hm with ⟨rfl, place, hplace, hbase⟩ | ⟨above, name, rfl,
    hthere, hmade⟩
  · obtain ⟨above, name, dir, rfl, -⟩ := entryOf_eq_ok.1 he
    obtain ⟨entry, node, hentry, hnode, hlast⟩ :=
      locate_concat_eq_ok (hplain name (by simp)) hplace
    rw [he, Except.ok.injEq] at hentry
    subst hentry
    by_cases hlink : ∃ target, node = .link target
    · obtain ⟨target, rfl⟩ := hlink
      exact .inr ⟨rfl, .inr ⟨target, hnode⟩⟩
    · rw [not_exists] at hlink
      rw [hlast hlink] at hbase
      by_cases heq : entry = base
      · exact .inr ⟨rfl, .inl heq⟩
      · exact .inl ⟨hbase, Ne.symm heq⟩
  · obtain ⟨dir, rfl, -, hbase, -⟩ := hmade.entry hclosed (hplain name (by simp)) hthere he
    exact .inl (Path.below_concat hbase name)

/-- A file that is copied to a path that passes is written below the base, in place
of a file or of nothing. -/
theorem writeEntry_cases (hbase : tree.get? base = some .directory)
    (hw : mid.writeEntry path = .ok entry) :
    Path.Below base entry ∧
      ∀ node, mid.get? entry = some node → ∃ bytes, node = .file bytes := by
  have hdirectory := (grows_of_makeDirs hclosed hplain h hm).1.keeps.directory hbase
  rcases writeEntry_eq_ok.1 hw with ⟨hc, hnd⟩ | ⟨-, he, hnone⟩
  · rcases above_cases hclosed hplain h hm with ⟨rfl, place, hplace, hin⟩ | ⟨above, name, rfl,
      hthere, hmade⟩
    · rw [hplace, Except.ok.injEq] at hc
      subst hc
      refine ⟨⟨hin, fun heq => hnd (heq ▸ hbase)⟩, fun node hnode => ?_⟩
      obtain ⟨found, hfound, hlink⟩ := (isPlace_of_canonical hplace).found
      rw [hfound, Option.some.injEq] at hnode
      subst hnode
      cases found with
      | file bytes => exact ⟨bytes, rfl⟩
      | directory => exact absurd hfound hnd
      | link target => exact absurd rfl (hlink target)
    · exact absurd (hmade.directory hclosed (hplain name (by simp)) hthere hc).2 hnd
  · refine ⟨?_, fun node hnode => by rw [hnone] at hnode; cases hnode⟩
    rcases entry_cases hclosed hplain h hm he with hbelow | ⟨rfl, rfl | ⟨target, htarget⟩⟩
    · exact hbelow
    · rw [hdirectory] at hnone; cases hnone
    · rw [htarget] at hnone; cases hnone

end Entries

end FileTree

end Emend
