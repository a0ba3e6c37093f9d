import Emend.Proofs.Workspace.Bare
import Emend.Proofs.Workspace.Transfer
/-!
# Imprints

An operation makes directories on the way to a path and leaves something at one or two paths.
Its imprint says where and what, and not what it found.

*Imprints.*  `Imprint.Marks` says that a tree is another one with an imprint.  Two imprints
commute if the paths of each are apart from those of the other (`Imprint.after_comm`).

*Likeness.*  Trees look alike along a path if they hold the same at the path; above it, one
may have a directory where the other has nothing (`Alike`).  Imprints at paths apart from it
leave a tree alike (`Imprint.Within.alike`).

*Operations.*  On trees without links that look alike along a path, the directories above the
path are made alike (`PavesAlike.makeAbove`).  Then a file comes to the path in both trees, or
in neither for the same reason (`Settled.replaceFile`, `Settled.copyFile`).
-/

namespace Emend

open FileTree

/-! ## Imprints -/

/-- What an operation leaves in a tree. -/
structure Imprint where
  /-- Where a directory is made if there is nothing. -/
  paved : Path → Bool := fun _ => false
  /-- What is left at some paths, whatever was there. -/
  struck : Path → Option (Option Node) := fun _ => none

namespace Imprint

variable {i j : Imprint} {old mid new : FileTree} {path : Path}

/-- What is at a path after an imprint. -/
def after (i : Imprint) (path : Path) (before : Option Node) : Option Node :=
  match i.struck path with
  | some left => left
  | none => if i.paved path ∧ before = none then some .directory else before

/-- One tree is the other with an imprint. -/
def Marks (i : Imprint) (old new : FileTree) : Prop :=
  ∀ path, new.get? path = i.after path (old.get? path)

/-- An imprint is at some paths and on the ways to them. -/
structure Within (i : Imprint) (paths : List Path) : Prop where
  /-- Directories are made on the way to one of the paths. -/
  paved : ∀ path, i.paved path = true → ∃ p ∈ paths, path <+: p
  /-- Something is left at one of the paths. -/
  struck : ∀ path, i.struck path ≠ none → path ∈ paths

theorem within_empty (paths : List Path) : Within {} paths :=
  ⟨by simp, by simp⟩

theorem marks_empty (tree : FileTree) : Marks {} tree tree := fun _ => by simp [after]

theorem Within.mono {paths more : List Path} (h : i.Within paths) (hsub : ∀ p ∈ paths, p ∈ more) :
    i.Within more :=
  ⟨fun path hpath => (h.paved path hpath).imp fun p hp => ⟨hsub p hp.1, hp.2⟩,
    fun path hpath => hsub path (h.struck path hpath)⟩

end Imprint

/-- Neither of two paths leads through the other. -/
def Path.Apart (p q : Path) : Prop := ¬ p <+: q ∧ ¬ q <+: p

theorem Path.Apart.symm {p q : Path} (h : Path.Apart p q) : Path.Apart q p := And.symm h

namespace Imprint

variable {i j : Imprint} {old mid new : FileTree} {path : Path} {paths others : List Path}

/-- An imprint changes nothing at a path apart from its own. -/
theorem Within.after_eq (h : i.Within paths) (hapart : ∀ p ∈ paths, Path.Apart path p)
    (before : Option Node) : i.after path before = before := by
  have hstruck : i.struck path = none := by
    by_contra hne
    exact (hapart path (h.struck path hne)).1 (List.prefix_refl path)
  have hpaved : ¬ i.paved path = true := fun hpaved => by
    obtain ⟨p, hp, hle⟩ := h.paved path hpaved
    exact (hapart p hp).1 hle
  simp [after, hstruck, hpaved]

/-- Imprints at paths that are apart commute. -/
theorem after_comm (hi : i.Within paths) (hj : j.Within others)
    (hapart : ∀ p ∈ paths, ∀ q ∈ others, Path.Apart p q) (path : Path) (before : Option Node) :
    i.after path (j.after path before) = j.after path (i.after path before) := by
  cases hstruck : i.struck path with
  | some left =>
      have hpath := hi.struck path (by simp [hstruck])
      have hj' := hj.after_eq (hapart path hpath)
      simp only [hj']
  | none =>
  cases hstruckj : j.struck path with
  | some left =>
      have hpath := hj.struck path (by simp [hstruckj])
      have hi' := hi.after_eq fun p hp => (hapart p hp path hpath).symm
      simp only [hi']
  | none =>
      cases before with
      | some node => simp [after, hstruck, hstruckj]
      | none => cases hp : i.paved path <;> cases hq : j.paved path <;>
          simp [after, hstruck, hstruckj, hp, hq]

end Imprint

/-! ## Likeness -/

/-- There may be a directory where there was nothing. -/
def Filled (before after : Option Node) : Prop :=
  before = after ∨ before = none ∧ after = some .directory

/-- Along a path, one tree has no more than more directories. -/
def Along (path : Path) (tree other : FileTree) : Prop :=
  ∀ above, above <+: path → Filled (tree.get? above) (other.get? above)

/-- Along a path two trees look alike. -/
structure Alike (path : Path) (tree other : FileTree) : Prop where
  /-- They hold the same at the path. -/
  here : tree.get? path = other.get? path
  /-- On the way to it there may be more directories. -/
  along : Along path tree other

theorem Alike.refl (path : Path) (tree : FileTree) : Alike path tree tree :=
  ⟨rfl, fun _ _ => .inl rfl⟩

/-- A tree with an imprint looks like the tree along a path apart from those of the imprint. -/
theorem Imprint.Within.alike {i : Imprint} {old new : FileTree} {path : Path} {paths : List Path}
    (h : i.Within paths) (hmarks : i.Marks old new) (hapart : ∀ p ∈ paths, Path.Apart path p) :
    Alike path old new := by
  refine ⟨by rw [hmarks, h.after_eq hapart], fun above habove => ?_⟩
  have hstruck : i.struck above = none := by
    by_contra hne
    exact (hapart above (h.struck above hne)).2 habove
  rw [hmarks, Imprint.after, hstruck]
  simp only
  split
  · next hcase => exact .inr ⟨hcase.2, rfl⟩
  · exact .inl rfl

/-! ## Directories -/

namespace Imprint

variable {base path : Path} {name : Text} {tree made : FileTree}

/-- What is left where only directories are made. -/
def ofPaved (paved : Path → Bool) : Imprint := { paved }

theorem ofPaved_after (paved : Path → Bool) (path : Path) (before : Option Node) :
    (ofPaved paved).after path before =
      if paved path ∧ before = none then some .directory else before := rfl

/-- Directories that are all there are made no more. -/
theorem marks_of_there {paved : Path → Bool} (h : ∀ p, paved p = true → tree.get? p ≠ none) :
    (ofPaved paved).Marks tree tree := by
  intro p
  rw [ofPaved_after, if_neg]
  rintro ⟨hp, hnone⟩
  exact h p hp hnone

/-- One directory is made, and all else is as it was. -/
theorem marks_put (hne : path ≠ []) (hnone : tree.get? path = none) :
    (ofPaved (· == path)).Marks tree (tree.put path .directory) := by
  intro p
  rw [ofPaved_after, get?_put hne]
  by_cases hp : p = path <;> simp [hp, hnone]

/-- What is made above a path is not at the path. -/
theorem Marks.get?_eq {paved : Path → Bool}
    (hwithin : ∀ p, paved p = true → p <+: path.dropLast)
    (hmarks : (ofPaved paved).Marks tree made) : made.get? path = tree.get? path := by
  rw [hmarks, ofPaved_after, if_neg]
  rintro ⟨hp, hnone⟩
  have hlen := (hwithin path hp).length_le
  have hempty : path = [] := by
    rw [List.length_dropLast] at hlen
    exact List.length_eq_zero_iff.1 (by omega)
  rw [hempty, get?_nil] at hnone
  cases hnone

theorem Marks.file {paved : Path → Bool} (hmarks : (ofPaved paved).Marks tree made) {p : Path}
    {bytes : Bytes} (hfile : tree.get? p = some (.file bytes)) :
    made.get? p = some (.file bytes) := by
  rw [hmarks, ofPaved_after, if_neg (by simp [hfile]), hfile]

end Imprint

/-- The directories on the way to a path, and at its end. -/
def Path.upTo (path : Path) : Path → Bool := fun p => p.isPrefixOf path

theorem Path.upTo_iff {p path : Path} : Path.upTo path p = true ↔ p <+: path :=
  List.isPrefixOf_iff_prefix

theorem Path.not_upTo_concat (above : Path) (name : Text) :
    ¬ Path.upTo above (above ++ [name]) = true := by
  intro hle
  have hlen := (Path.upTo_iff.1 hle).length_le
  rw [List.length_append, List.length_singleton] at hlen
  omega

namespace Bare

variable {base path above : Path} {name : Text} {tree other made made' : FileTree}

/-- One more directory after those above it. -/
theorem marks_ensureDir {next : FileTree} (h : (Imprint.ofPaved (Path.upTo above)).Marks tree made)
    (hnext : (Imprint.ofPaved (· == above ++ [name])).Marks made next) :
    (Imprint.ofPaved (Path.upTo (above ++ [name]))).Marks tree next := by
  intro p
  rw [hnext, h, Imprint.ofPaved_after, Imprint.ofPaved_after, Imprint.ofPaved_after]
  by_cases hlast : p = above ++ [name]
  · subst hlast
    have hnot := Path.not_upTo_concat above name
    have hself : Path.upTo (above ++ [name]) (above ++ [name]) = true :=
      Path.upTo_iff.2 (List.prefix_refl _)
    simp [hnot, hself]
  · have hiff : Path.upTo (above ++ [name]) p = true ↔ Path.upTo above p = true := by
      rw [Path.upTo_iff, Path.upTo_iff, List.prefix_concat_iff]
      exact or_iff_right hlast
    simp [hlast, hiff]

/-- Directories to which others lead, once they have been made. -/
theorem lands (h : Bare base tree) (hpath : Path.IsFrom base path)
    (hm : tree.makeDirs path = (made, .ok ())) :
    made.canonical path = .ok path ∧ made.get? path = some .directory := by
  have hmade : Made base tree path (tree.makeDirs path) :=
    makeDirs_made h.grounded.closed hpath.plain (allows_of_linkFree h.grounded h.linkFree hpath)
  rw [hm] at hmade
  have hbare := h.tame (hmade.grows.tame hmade.closed)
  obtain ⟨dir, hdir, hd, -, -⟩ := hmade.lands rfl
  obtain rfl := canonical_eq hbare.grounded hbare.linkFree hpath hdir
  exact ⟨hdir, hd⟩

theorem makeDirs_tame (h : Bare base tree) (hpath : Path.IsFrom base path)
    {res : Except FileError Unit} (hm : tree.makeDirs path = (made, res)) : Tame tree made := by
  have hmade : Made base tree path (tree.makeDirs path) :=
    makeDirs_made h.grounded.closed hpath.plain (allows_of_linkFree h.grounded h.linkFree hpath)
  rw [hm] at hmade
  exact hmade.grows.tame hmade.closed

theorem file?_congr (h : Bare base tree) (h' : Bare base other) (hpath : Path.IsFrom base path)
    (hfilled : Filled (tree.get? path) (other.get? path)) :
    tree.file? path = other.file? path := by
  apply Option.ext
  intro bytes
  rw [file?_eq_some_iff h.grounded h.linkFree hpath,
    file?_eq_some_iff h'.grounded h'.linkFree hpath, fileAt_eq_some, fileAt_eq_some]
  rcases hfilled with heq | ⟨hnone, hd⟩
  · rw [heq]
  · simp [hnone, hd]

theorem entryOf_congr (h : tree.canonical above = .ok above)
    (hd : tree.get? above = some .directory) (h' : other.canonical above = .ok above)
    (hd' : other.get? above = some .directory) (name : Text) :
    tree.entryOf (above ++ [name]) = other.entryOf (above ++ [name]) := by
  rw [entryOf_concat, entryOf_concat, h, h', Except.bind, Except.bind, hd, hd']

end Bare

/-- Making directories comes to the same end on two trees, and makes the same where they are
missing. -/
structure PavesAlike (path : Path) (tree other : FileTree)
    (op op' : FileTree × Except FileError Unit) : Prop where
  /-- The ends are the same. -/
  result : op.2 = op'.2
  /-- What is new is on the way to the path, and all of this if nothing went wrong. -/
  marks : ∃ paved, (Imprint.ofPaved paved).Marks tree op.1 ∧
    (Imprint.ofPaved paved).Marks other op'.1 ∧ (∀ p, paved p = true → p <+: path) ∧
    (op.2 = .ok () → paved = Path.upTo path)

namespace PavesAlike

variable {base path above : Path} {name : Text} {tree other made made' : FileTree}

theorem refused (path : Path) (tree other : FileTree) (e : FileError) :
    PavesAlike path tree other (tree, .error e) (other, .error e) :=
  ⟨rfl, _, Imprint.marks_empty tree, Imprint.marks_empty other, by simp, by simp⟩

/-- Where something went wrong above, it went wrong. -/
theorem failed {e : FileError}
    (h : PavesAlike above tree other (made, .error e) (made', .error e)) (name : Text) :
    PavesAlike (above ++ [name]) tree other (made, .error e) (made', .error e) := by
  obtain ⟨-, paved, hmarks, hmarks', hwithin, -⟩ := h
  exact ⟨rfl, paved, hmarks, hmarks', fun p hp => (hwithin p hp).trans (List.prefix_append _ _),
    by simp⟩

section Last

variable (hmarks : (Imprint.ofPaved (Path.upTo above)).Marks tree made)
  (hmarks' : (Imprint.ofPaved (Path.upTo above)).Marks other made')

include hmarks hmarks'

/-- After the directories above it, the last one is refused in both trees. -/
theorem last_refused (name : Text) (e : FileError) :
    PavesAlike (above ++ [name]) tree other (made, .error e) (made', .error e) := by
  have hbefore : PavesAlike above tree other (made, .error e) (made', .error e) :=
    ⟨rfl, _, hmarks, hmarks', fun p => Path.upTo_iff.1, by simp⟩
  exact hbefore.failed name

/-- After the directories above it, the last one is there in both trees. -/
theorem last_done {next next' : FileTree}
    (hnext : (Imprint.ofPaved (· == above ++ [name])).Marks made next)
    (hnext' : (Imprint.ofPaved (· == above ++ [name])).Marks made' next') :
    PavesAlike (above ++ [name]) tree other (next, .ok ()) (next', .ok ()) :=
  ⟨rfl, _, Bare.marks_ensureDir hmarks hnext, Bare.marks_ensureDir hmarks' hnext',
    fun _ => Path.upTo_iff.1, fun _ => rfl⟩

/-- What becomes of the last directory after those above it. -/
theorem ensureDir (h : Bare base tree) (h' : Bare base other)
    (hpath : Path.IsFrom base (above ++ [name])) (habove : base <+: above)
    (halong : Along (above ++ [name]) tree other)
    (hm : tree.makeDirs above = (made, .ok ())) (hm' : other.makeDirs above = (made', .ok ())) :
    PavesAlike (above ++ [name]) tree other (made.ensureDir (above ++ [name]))
      (made'.ensureDir (above ++ [name])) := by
  have hfrom := Bare.isFrom_above hpath habove
  obtain ⟨hc, hd⟩ := h.lands hfrom hm
  obtain ⟨hc', hd'⟩ := h'.lands hfrom hm'
  have hmade := h.tame (h.makeDirs_tame hfrom hm)
  have hmade' := h'.tame (h'.makeDirs_tame hfrom hm')
  have hwithin : ∀ p, Path.upTo above p = true → p <+: (above ++ [name]).dropLast := fun p hp => by
    rw [List.dropLast_concat]
    exact Path.upTo_iff.1 hp
  have hlast := hmarks.get?_eq hwithin
  have hlast' := hmarks'.get?_eq hwithin
  -- A directory that is missing is made, and one that is there is kept.
  have hput : ∀ {t : FileTree}, t.get? (above ++ [name]) = none →
      (Imprint.ofPaved (· == above ++ [name])).Marks t (t.put (above ++ [name]) .directory) :=
    fun hnone => Imprint.marks_put (by simp) hnone
  have hkeep : ∀ {t : FileTree}, t.get? (above ++ [name]) = some .directory →
      (Imprint.ofPaved (· == above ++ [name])).Marks t t := fun hthere =>
    Imprint.marks_of_there fun p hp => by simp [eq_of_beq hp, hthere]
  rw [hmade.ensureDir_eq hpath habove, hmade'.ensureDir_eq hpath habove,
    Bare.entryOf_congr hc hd hc' hd']
  cases made'.entryOf (above ++ [name]) with
  | error e => exact last_refused hmarks hmarks' name e
  | ok entry =>
  rcases halong _ (List.prefix_refl _) with hsame | ⟨hnone, hthere⟩
  · rw [← hlast, ← hlast'] at hsame
    rw [hsame]
    cases hnode : made'.get? (above ++ [name]) with
    | none => exact last_done hmarks hmarks' (hput (hsame.trans hnode)) (hput hnode)
    | some node =>
        cases node with
        | directory => exact last_done hmarks hmarks' (hkeep (hsame.trans hnode)) (hkeep hnode)
        | file bytes => exact last_refused hmarks hmarks' name _
        | link target => exact absurd hnode (hmade'.not_link habove target)
  · rw [← hlast] at hnone
    rw [← hlast'] at hthere
    rw [hnone, hthere]
    exact last_done hmarks hmarks' (hput hnone) (hkeep hthere)

end Last

/-- On the way to the base there is nothing to be made. -/
theorem of_prefix (h : Bare base tree) (h' : Bare base other) (hpath : path <+: base) :
    PavesAlike path tree other (tree.makeDirs path) (other.makeDirs path) := by
  rw [h.makeDirs_of_prefix hpath, h'.makeDirs_of_prefix hpath]
  refine ⟨rfl, Path.upTo path, ?_, ?_, fun p => Path.upTo_iff.1, fun _ => rfl⟩
  · refine Imprint.marks_of_there fun p hp => ?_
    rw [h.directory_of_prefix ((Path.upTo_iff.1 hp).trans hpath)]
    simp
  · refine Imprint.marks_of_there fun p hp => ?_
    rw [h'.directory_of_prefix ((Path.upTo_iff.1 hp).trans hpath)]
    simp

/-- Along a path that looks alike, directories are made alike. -/
theorem makeDirs (h : Bare base tree) (h' : Bare base other) (hpath : Path.IsFrom base path)
    (halong : Along path tree other) :
    PavesAlike path tree other (tree.makeDirs path) (other.makeDirs path) := by
  induction path using List.reverseRecOn with
  | nil => exact of_prefix h h' List.nil_prefix
  | append_singleton above name ih =>
      rcases List.prefix_concat_iff.1 hpath.within with rfl | habove
      · exact of_prefix h h' (List.prefix_refl _)
      · have hfrom := Bare.isFrom_above hpath habove
        have halongAbove : Along above tree other := fun p hp =>
          halong p (hp.trans (List.prefix_append _ _))
        have hfile := h.file?_congr h' hfrom (halong above (List.prefix_append _ _))
        rw [h.makeDirs_concat_eq hpath habove, h'.makeDirs_concat_eq hpath habove, ← hfile]
        split
        · exact refused _ _ _ _
        split
        · exact refused _ _ _ _
        have hmade := ih hfrom halongAbove
        cases hm : tree.makeDirs above with
        | mk made res =>
        cases hm' : other.makeDirs above with
        | mk made' res' =>
        rw [hm, hm'] at hmade
        obtain rfl := hmade.result
        cases res with
        | error e => exact hmade.failed name
        | ok u =>
            obtain ⟨-, paved, hmarks, hmarks', -, hall⟩ := hmade
            rw [hall rfl] at hmarks hmarks'
            exact ensureDir hmarks hmarks' h h' hpath habove halong hm hm'

/-- Above a path that looks alike, directories are made alike. -/
theorem makeAbove (h : Bare base tree) (h' : Bare base other) (hpath : Path.IsFrom base path)
    (halong : Along path tree other) : PavesAlike path.dropLast tree other
      (tree.makeDirs path.dropLast) (other.makeDirs path.dropLast) := by
  rcases List.eq_nil_or_concat path with rfl | ⟨above, name, rfl⟩
  · exact of_prefix h h' List.nil_prefix
  rw [List.concat_eq_append] at hpath halong ⊢
  rw [List.dropLast_concat]
  rcases List.prefix_concat_iff.1 hpath.within with rfl | habove
  · exact of_prefix h h' (List.prefix_append above [name])
  · exact makeDirs h h' (Bare.isFrom_above hpath habove) fun p hp =>
      halong p (hp.trans (List.prefix_append _ _))

end PavesAlike

/-! ## Changes at a path -/

/-- What has been made above a path, in trees that look alike along it, lets a change at the
path come to the same. -/
structure Settled (base path : Path) (tree other made made' : FileTree) : Prop where
  /-- The one tree has no links. -/
  bare : Bare base made
  /-- Nor has the other one. -/
  bare' : Bare base made'
  /-- The path has the same entry in both, or none for the same reason. -/
  entry : made.entryOf path = made'.entryOf path
  /-- It leads to the same, or nowhere for the same reason. -/
  leads : made.canonical path = made'.canonical path
  /-- The same is there. -/
  here : made.get? path = made'.get? path
  /-- Files in the one tree are as they were. -/
  files : ∀ p bytes, tree.get? p = some (.file bytes) → made.get? p = some (.file bytes)
  /-- So are files in the other one. -/
  files' : ∀ p bytes, other.get? p = some (.file bytes) → made'.get? p = some (.file bytes)

/-- A change comes to the same on two trees: to a fault, or to a file at the path. -/
def ChangesAlike (path : Path) (bytes : Bytes) (made made' : FileTree)
    (f : FileTree → Except FileError FileTree) : Prop :=
  (∃ e, f made = .error e ∧ f made' = .error e) ∨
    path ≠ [] ∧ f made = .ok (made.put path (.file bytes)) ∧
      f made' = .ok (made'.put path (.file bytes))

section Changes

variable {base path source : Path} {tree other made made' : FileTree}

/-- When all directories above a path have been made, the rest of the path is one. -/
theorem Bare.settled (h : Bare base tree) (hpath : Path.IsFrom base path)
    (hm : tree.makeDirs path.dropLast = (made, .ok ())) :
    made.canonical path.dropLast = .ok path.dropLast ∧
      made.get? path.dropLast = some .directory := by
  rcases List.eq_nil_or_concat path with rfl | ⟨above, name, rfl⟩
  · exact ⟨canonical_nil made, get?_nil made⟩
  rw [List.concat_eq_append] at hpath hm ⊢
  rw [List.dropLast_concat] at hm ⊢
  rcases List.prefix_concat_iff.1 hpath.within with rfl | habove
  · have hle := List.prefix_append above [name]
    rw [h.makeDirs_of_prefix hle] at hm
    cases hm
    exact ⟨h.canonical_of_prefix hle, h.directory_of_prefix hle⟩
  · exact h.lands (Bare.isFrom_above hpath habove) hm

theorem Bare.above_tame (h : Bare base tree) (hpath : Path.IsFrom base path)
    {res : Except FileError Unit} (hm : tree.makeDirs path.dropLast = (made, res)) :
    Tame tree made := by
  obtain ⟨hgrows, hclosed⟩ := grows_of_makeDirs h.grounded.closed hpath.plain
    (allows_of_linkFree h.grounded h.linkFree hpath) hm
  exact hgrows.tame hclosed

/-- The same can be done at a path when directories have been made above it. -/
theorem settled (h : Bare base tree) (h' : Bare base other) (hpath : Path.IsFrom base path)
    (hhere : tree.get? path = other.get? path) {paved : Path → Bool}
    (hm : tree.makeDirs path.dropLast = (made, .ok ()))
    (hm' : other.makeDirs path.dropLast = (made', .ok ()))
    (hmarks : (Imprint.ofPaved paved).Marks tree made)
    (hmarks' : (Imprint.ofPaved paved).Marks other made')
    (hwithin : ∀ p, paved p = true → p <+: path.dropLast) :
    Settled base path tree other made made' := by
  have hbare := h.tame (h.above_tame hpath hm)
  have hbare' := h'.tame (h'.above_tame hpath hm')
  obtain ⟨hc, hd⟩ := h.settled hpath hm
  obtain ⟨hc', hd'⟩ := h'.settled hpath hm'
  have hsame : made.get? path = made'.get? path := by
    rw [hmarks.get?_eq hwithin, hmarks'.get?_eq hwithin, hhere]
  have hentry : made.entryOf path = made'.entryOf path := by
    rcases List.eq_nil_or_concat path with rfl | ⟨above, name, rfl⟩
    · rfl
    · rw [List.concat_eq_append] at hc hd hc' hd' ⊢
      rw [List.dropLast_concat] at hc hd hc' hd'
      exact Bare.entryOf_congr hc hd hc' hd' name
  refine ⟨hbare, hbare', hentry, ?_, hsame, fun _ _ => hmarks.file, fun _ _ => hmarks'.file⟩
  rcases List.eq_nil_or_concat path with rfl | ⟨above, name, rfl⟩
  · rw [canonical_nil, canonical_nil]
  rw [List.concat_eq_append] at hpath hentry hsame ⊢
  rcases List.prefix_concat_iff.1 hpath.within with rfl | habove
  · rw [hbare.grounded.leads, hbare'.grounded.leads]
  · rw [hbare.canonical_concat hpath habove, hbare'.canonical_concat hpath habove, hentry, hsame]

namespace Settled

variable (h : Settled base path tree other made made') (hpath : Path.IsFrom base path)

include h hpath

theorem replaceFile (bytes : Bytes) :
    ChangesAlike path bytes made made' (FileTree.replaceFile path bytes) := by
  unfold ChangesAlike
  rw [h.bare.replaceFile_eq hpath, h.bare'.replaceFile_eq hpath, ← h.entry, ← h.here]
  split
  · exact .inl ⟨_, rfl, rfl⟩
  · next hne =>
    split
    · exact .inl ⟨_, rfl, rfl⟩
    cases made.entryOf path with
    | error e => exact .inl ⟨e, rfl, rfl⟩
    | ok entry =>
        simp only [Except.bind]
        split
        · exact .inl ⟨_, rfl, rfl⟩
        · exact .inr ⟨by simpa using hne, rfl, rfl⟩

theorem writeEntry_eq : made.writeEntry path = made'.writeEntry path := by
  rw [h.bare.writeEntry_eq hpath, h.bare'.writeEntry_eq hpath, ← h.entry, ← h.here, ← h.leads]

/-- A file that is in both trees is copied alike. -/
theorem copyFile (hsource : Path.IsFrom base source) (hne : source ≠ path) {bytes : Bytes}
    (hfile : tree.file? source = some bytes) (hfile' : other.file? source = some bytes)
    (hbare : Bare base tree) (hbare' : Bare base other) :
    ChangesAlike path bytes made made' (FileTree.copyFile id source path) := by
  have hmade : made.file? source = some bytes := by
    rw [← hfile]
    refine (hbare.file?_congr h.bare hsource (.inl ?_)).symm
    rw [(hbare.entry_of_file hsource hfile).1, h.files _ _ (hbare.entry_of_file hsource hfile).1]
  have hmade' : made'.file? source = some bytes := by
    rw [← hfile']
    refine (hbare'.file?_congr h.bare' hsource (.inl ?_)).symm
    rw [(hbare'.entry_of_file hsource hfile').1,
      h.files' _ _ (hbare'.entry_of_file hsource hfile').1]
  unfold ChangesAlike
  rw [h.bare.copyFile_eq hpath hsource hne hmade, h.bare'.copyFile_eq hpath hsource hne hmade',
    ← h.writeEntry_eq hpath]
  cases hw : made.writeEntry path with
  | error e => exact .inl ⟨e, rfl, rfl⟩
  | ok entry =>
      obtain ⟨rfl, -⟩ := Emend.writeEntry_eq h.bare.grounded h.bare.linkFree hpath hw
      exact .inr ⟨(inDirectory_of_writeEntry hw).ne_nil, rfl, rfl⟩

end Settled

end Changes

end Emend
