import Mathlib.Data.List.Induction
import Emend.Files.Walk
/-!
# Where a path leads

`walk` is a function that jumps at each link.  `Leads` says as a relation what it
does while nothing goes wrong, with the links that are left, so that facts about
walks are inductions on the steps of a walk.

*Agreement.*  A walk is in step with `Leads` up to any point of its way
(`Leads.walk_append`), and from where there is no such step it fails, whatever
comes after (`leads_or_error`).  So a path leads where `canonical` says
(`canonical_eq_ok`).

*Places.*  The end of a walk is a place: there is something there other than a
link, and directories alone lead to it (`Leads.isPlace`).  A place leads to itself
without the use of a link (`IsPlace.leads`).
-/

namespace Emend

namespace Path

/-- Whether a part stands for a name. -/
def isPlain (part : Text) : Bool := !isDot part && !isDotDot part

/-- Whether a part stands for a name that an entry can have. -/
def isName (part : Text) : Bool := isPlain part && !isLong part

theorem isPlain_iff {part : Text} :
    isPlain part = true ↔ isDot part = false ∧ isDotDot part = false := by
  simp [isPlain]

theorem isName_iff {part : Text} :
    isName part = true ↔ isDot part = false ∧ isDotDot part = false ∧ isLong part = false := by
  simp [isName, isPlain, and_assoc]

end Path

namespace FileTree

variable {tree : FileTree}

/-! ## The relation -/

/-- Walking along some parts from a directory, with so many links to follow, ends
at a path with so many links left. -/
inductive Leads (tree : FileTree) : Nat → Path → List Text → Nat → Path → Prop where
  /-- There is nothing left to walk. -/
  | here {n : Nat} {dir : Path} : Leads tree n dir [] n dir
  /-- A part that stands for no name. -/
  | dot {n m : Nat} {dir place : Path} {part : Text} {rest : List Text} :
    tree.get? dir = some .directory → Path.isDot part = true →
    Leads tree n dir rest m place → Leads tree n dir (part :: rest) m place
  /-- A part that stands for the directory above. -/
  | up {n m : Nat} {dir place : Path} {part : Text} {rest : List Text} :
    tree.get? dir = some .directory → Path.isDot part = false → Path.isDotDot part = true →
    Leads tree n dir.dropLast rest m place → Leads tree n dir (part :: rest) m place
  /-- The name of something other than a link. -/
  | name {n m : Nat} {dir place : Path} {part : Text} {rest : List Text} {node : Node} :
    tree.get? dir = some .directory → Path.isName part = true →
    tree.get? (dir ++ [part]) = some node → (∀ target, node ≠ .link target) →
    Leads tree n (dir ++ [part]) rest m place → Leads tree n dir (part :: rest) m place
  /-- The name of a link. -/
  | link {n m : Nat} {dir place : Path} {part : Text} {rest : List Text} {target : Text} :
    tree.get? dir = some .directory → Path.isName part = true →
    tree.get? (dir ++ [part]) = some (.link target) →
    Leads tree n (if Path.isAbsolute target then [] else dir) (Path.parts target ++ rest) m place →
    Leads tree (n + 1) dir (part :: rest) m place

/-! ## The steps of a walk -/

/-- What a walk does at a link. -/
def jump (tree : FileTree) (follow : Bool) : Nat → Path → List Text → Except FileError Path
  | 0 => fun _ _ => .error .tooManyLinks
  | links + 1 => walk tree follow links

theorem walk_eq (tree : FileTree) (follow : Bool) (n : Nat) :
    walk tree follow n = walkWith tree follow (jump tree follow n) := by
  cases n <;> rfl

@[simp] theorem walk_nil (follow : Bool) (n : Nat) (dir : Path) :
    walk tree follow n dir [] = .ok dir := by
  rw [walk_eq]; rfl

section Steps

variable {follow : Bool} {n : Nat} {dir : Path} {part : Text} {rest : List Text}

theorem walk_notDirectory (hd : tree.get? dir ≠ some .directory) :
    walk tree follow n dir (part :: rest) = .error .notDirectory := by
  rw [walk_eq, walkWith, if_pos hd]

variable (hd : tree.get? dir = some .directory)

include hd

theorem walk_dot (hp : Path.isDot part = true) :
    walk tree follow n dir (part :: rest) = walk tree follow n dir rest := by
  rw [walk_eq, walkWith, if_neg (by simp [hd]), if_pos hp]

theorem walk_up (hp : Path.isDot part = false) (hu : Path.isDotDot part = true) :
    walk tree follow n dir (part :: rest) = walk tree follow n dir.dropLast rest := by
  rw [walk_eq, walkWith, if_neg (by simp [hd]), if_neg (by simp [hp]), if_pos hu]

theorem walk_long (hp : Path.isDot part = false) (hu : Path.isDotDot part = false)
    (hl : Path.isLong part = true) :
    walk tree follow n dir (part :: rest) = .error .nameTooLong := by
  rw [walk_eq, walkWith, if_neg (by simp [hd]), if_neg (by simp [hp]), if_neg (by simp [hu]),
    if_pos hl]

variable (hn : Path.isName part = true)

include hn

theorem walk_missing (h : tree.get? (dir ++ [part]) = none) :
    walk tree follow n dir (part :: rest) = .error .notFound := by
  obtain ⟨hp, hu, hl⟩ := Path.isName_iff.1 hn
  rw [walk_eq, walkWith, if_neg (by simp [hd]), if_neg (by simp [hp]), if_neg (by simp [hu]),
    if_neg (by simp [hl]), h]

theorem walk_name {node : Node} (h : tree.get? (dir ++ [part]) = some node)
    (hlink : ∀ target, node ≠ .link target) :
    walk tree follow n dir (part :: rest) = walk tree follow n (dir ++ [part]) rest := by
  obtain ⟨hp, hu, hl⟩ := Path.isName_iff.1 hn
  rw [walk_eq, walkWith, if_neg (by simp [hd]), if_neg (by simp [hp]), if_neg (by simp [hu]),
    if_neg (by simp [hl]), h]
  cases node with
  | file bytes => rfl
  | directory => rfl
  | link target => exact absurd rfl (hlink target)

theorem walk_link {target : Text} (h : tree.get? (dir ++ [part]) = some (.link target))
    (hr : rest ≠ [] ∨ follow = true) :
    walk tree follow n dir (part :: rest) =
      jump tree follow n (if Path.isAbsolute target then [] else dir)
        (Path.parts target ++ rest) := by
  obtain ⟨hp, hu, hl⟩ := Path.isName_iff.1 hn
  have hgo : (rest.isEmpty && !follow) = false := by
    rcases hr with hr | hr
    · cases rest with
      | nil => exact absurd rfl hr
      | cons => rfl
    · simp [hr]
  rw [walk_eq, walkWith, if_neg (by simp [hd]), if_neg (by simp [hp]), if_neg (by simp [hu]),
    if_neg (by simp [hl]), h]
  simp only [hgo, Bool.false_eq_true, if_false]

/-- A link that comes last is where a walk ends that does not follow it. -/
theorem walk_last_link {target : Text} (h : tree.get? (dir ++ [part]) = some (.link target)) :
    walk tree false n dir [part] = .ok (dir ++ [part]) := by
  obtain ⟨hp, hu, hl⟩ := Path.isName_iff.1 hn
  rw [walk_eq, walkWith, if_neg (by simp [hd]), if_neg (by simp [hp]), if_neg (by simp [hu]),
    if_neg (by simp [hl]), h]
  rfl

end Steps

/-! ## Agreement with the walk -/

/-- A walk does what the relation says, and goes on from there. -/
theorem Leads.walk_append {n m : Nat} {dir place : Path} {parts : List Text}
    (h : Leads tree n dir parts m place) (follow : Bool) (rest : List Text)
    (hr : rest ≠ [] ∨ follow = true) :
    walk tree follow n dir (parts ++ rest) = walk tree follow m place rest := by
  induction h with
  | here => rfl
  | dot hd hp _ ih => rw [List.cons_append, walk_dot hd hp, ih]
  | up hd hp hu _ ih => rw [List.cons_append, walk_up hd hp hu, ih]
  | name hd hn h hlink _ ih => rw [List.cons_append, walk_name hd hn h hlink, ih]
  | link hd hn h _ ih =>
      have hr' : ∀ l : List Text, l ++ rest ≠ [] ∨ follow = true := fun l =>
        hr.imp_left fun hne hnil => hne (List.append_eq_nil_iff.1 hnil).2
      rw [List.cons_append, walk_link hd hn h (hr' _), ← List.append_assoc]
      exact ih

/-- Either some parts lead somewhere, or a walk along them fails, whatever comes
after them. -/
def Decided (tree : FileTree) (n : Nat) (dir : Path) (parts : List Text) : Prop :=
  (∃ m place, Leads tree n dir parts m place) ∨
    ∃ e, ∀ follow rest, (rest ≠ [] ∨ follow = true) →
      walk tree follow n dir (parts ++ rest) = .error e

/-- A step of a walk leaves it to what follows where some parts lead. -/
theorem Decided.step {n n' : Nat} {dir dir' : Path} {parts parts' : List Text}
    (h : Decided tree n' dir' parts')
    (hleads : ∀ {m place}, Leads tree n' dir' parts' m place → Leads tree n dir parts m place)
    (hwalk : ∀ follow rest, (rest ≠ [] ∨ follow = true) →
      walk tree follow n dir (parts ++ rest) = walk tree follow n' dir' (parts' ++ rest)) :
    Decided tree n dir parts := by
  rcases h with ⟨m, place, hs⟩ | ⟨e, he⟩
  · exact .inl ⟨m, place, hleads hs⟩
  · exact .inr ⟨e, fun follow rest hr => (hwalk follow rest hr).trans (he follow rest hr)⟩

theorem leads_or_error (tree : FileTree) :
    ∀ (n : Nat) (parts : List Text) (dir : Path), Decided tree n dir parts
  | n, [], dir => .inl ⟨n, dir, .here⟩
  | n, part :: parts, dir => by
      by_cases hd : tree.get? dir ≠ some .directory
      · exact .inr ⟨_, fun _ _ _ => walk_notDirectory hd⟩
      rw [ne_eq, Classical.not_not] at hd
      cases hp : Path.isDot part with
      | true =>
          exact (leads_or_error tree n parts dir).step (.dot hd hp) fun _ _ _ => walk_dot hd hp
      | false =>
      cases hu : Path.isDotDot part with
      | true =>
          exact (leads_or_error tree n parts dir.dropLast).step (.up hd hp hu)
            fun _ _ _ => walk_up hd hp hu
      | false =>
      cases hl : Path.isLong part with
      | true => exact .inr ⟨_, fun _ _ _ => walk_long hd hp hu hl⟩
      | false =>
      -- The name is good, so only what it names decides.
      have hn := Path.isName_iff.2 ⟨hp, hu, hl⟩
      have onward : ∀ node, tree.get? (dir ++ [part]) = some node →
          (∀ target, node ≠ .link target) → Decided tree n dir (part :: parts) :=
        fun node h hlink => (leads_or_error tree n parts (dir ++ [part])).step
          (.name hd hn h hlink) fun _ _ _ => walk_name hd hn h hlink
      cases h : tree.get? (dir ++ [part]) with
      | none => exact .inr ⟨_, fun _ _ _ => walk_missing hd hn h⟩
      | some node =>
      cases node with
      | file bytes => exact onward _ h (by simp)
      | directory => exact onward _ h (by simp)
      | link target =>
          have hjump : ∀ follow rest, (rest ≠ [] ∨ follow = true) →
              walk tree follow n dir (part :: parts ++ rest) =
                jump tree follow n (if Path.isAbsolute target then [] else dir)
                  (Path.parts target ++ (parts ++ rest)) := fun follow rest hr => by
            refine walk_link hd hn h (hr.imp_left fun hne hnil => ?_)
            exact hne (List.append_eq_nil_iff.1 hnil).2
          cases n with
          | zero => exact .inr ⟨.tooManyLinks, hjump⟩
          | succ n =>
              refine (leads_or_error tree n (Path.parts target ++ parts)
                (if Path.isAbsolute target then [] else dir)).step (.link hd hn h)
                fun follow rest hr => ?_
              rw [hjump follow rest hr, List.append_assoc]
              rfl
termination_by n parts => (n, parts.length)

/-- A walk that follows links and ends has gone where the relation says. -/
theorem walk_eq_ok {n : Nat} {dir place : Path} {parts : List Text} :
    walk tree true n dir parts = .ok place ↔ ∃ m, Leads tree n dir parts m place := by
  constructor
  · intro h
    rcases leads_or_error tree n parts dir with ⟨m, end_, hs⟩ | ⟨e, he⟩
    · have hw := hs.walk_append true [] (.inr rfl)
      rw [List.append_nil, h, walk_nil] at hw
      cases hw
      exact ⟨m, hs⟩
    · have hw := he true [] (.inr rfl)
      rw [List.append_nil, h] at hw
      cases hw
  · rintro ⟨m, hs⟩
    have hw := hs.walk_append true [] (.inr rfl)
    rwa [List.append_nil, walk_nil] at hw

/-- A path leads to a place if it holds no NUL and a walk from the root gets there. -/
theorem canonical_eq_ok {path place : Path} :
    tree.canonical path = .ok place ↔
      path.any Path.hasNul = false ∧ ∃ m, Leads tree maxLinks [] path m place := by
  unfold canonical locate
  cases hnul : path.any Path.hasNul with
  | true => simp
  | false => simpa using walk_eq_ok

/-! ## Places -/

/-- A path to which directories alone lead. -/
inductive Straight (tree : FileTree) : Path → Prop where
  /-- The root. -/
  | root : Straight tree []
  /-- An entry of a directory. -/
  | entry {dir : Path} {name : Text} : Straight tree dir → tree.get? dir = some .directory →
    Path.isName name = true → Straight tree (dir ++ [name])

theorem straight_concat {dir : Path} {name : Text} : Straight tree (dir ++ [name]) ↔
    Straight tree dir ∧ tree.get? dir = some .directory ∧ Path.isName name = true := by
  constructor
  · intro h
    generalize hp : dir ++ [name] = path at h
    cases h with
    | root => simp at hp
    | entry hs hd hn =>
        obtain ⟨rfl, hname⟩ := List.append_inj' hp rfl
        cases hname
        exact ⟨hs, hd, hn⟩
  · rintro ⟨hs, hd, hn⟩
    exact .entry hs hd hn

theorem Straight.names {path : Path} (h : Straight tree path) :
    ∀ name ∈ path, Path.isName name = true := by
  induction h with
  | root => simp
  | entry _ _ hn ih =>
      intro name hmem
      rcases List.mem_append.1 hmem with hmem | hmem
      · exact ih name hmem
      · rw [List.mem_singleton.1 hmem]
        exact hn

/-- What lies straight above is a directory. -/
theorem Straight.above {dir : Path} {names : List Text} (h : Straight tree (dir ++ names)) :
    Straight tree dir ∧ (names ≠ [] → tree.get? dir = some .directory) := by
  induction names using List.reverseRecOn with
  | nil => exact ⟨by simpa using h, fun hne => absurd rfl hne⟩
  | append_singleton names name ih =>
      rw [← List.append_assoc] at h
      obtain ⟨hs, hd, -⟩ := straight_concat.1 h
      refine ⟨(ih hs).1, fun _ => ?_⟩
      by_cases hnil : names = []
      · simpa [hnil] using hd
      · exact (ih hs).2 hnil

/-- A path without links at which there is something. -/
structure IsPlace (tree : FileTree) (path : Path) : Prop where
  /-- Directories lead to it. -/
  straight : Straight tree path
  /-- There is something other than a link. -/
  found : ∃ node, tree.get? path = some node ∧ ∀ target, node ≠ .link target

theorem isPlace_root : IsPlace tree [] :=
  ⟨.root, .directory, get?_nil tree, by simp⟩

theorem IsPlace.of_directory {path : Path} (hs : Straight tree path)
    (hd : tree.get? path = some .directory) : IsPlace tree path :=
  ⟨hs, .directory, hd, by simp⟩

theorem IsPlace.dropLast {path : Path} (h : IsPlace tree path) : IsPlace tree path.dropLast := by
  rcases List.eq_nil_or_concat path with rfl | ⟨dir, name, rfl⟩
  · exact isPlace_root
  · rw [List.concat_eq_append, List.dropLast_concat]
    obtain ⟨hs, hd, -⟩ := straight_concat.1 (List.concat_eq_append ▸ h.straight)
    exact .of_directory hs hd

/-- A walk from a place ends at a place. -/
theorem Leads.isPlace {n m : Nat} {dir place : Path} {parts : List Text}
    (h : Leads tree n dir parts m place) (hdir : IsPlace tree dir) : IsPlace tree place := by
  induction h with
  | here => exact hdir
  | dot _ _ _ ih => exact ih hdir
  | up _ _ _ _ ih => exact ih hdir.dropLast
  | name hd hn hnode hlink _ ih => exact ih ⟨.entry hdir.straight hd hn, _, hnode, hlink⟩
  | link hd hn hnode _ ih =>
      refine ih ?_
      split
      · exact isPlace_root
      · exact hdir

/-- What a path leads to is a place. -/
theorem isPlace_of_canonical {path place : Path} (h : tree.canonical path = .ok place) :
    IsPlace tree place := by
  obtain ⟨-, m, hs⟩ := canonical_eq_ok.1 h
  exact hs.isPlace isPlace_root

/-- From a place above it, a place is reached by its names and without links. -/
theorem IsPlace.leads {dir : Path} {names : List Text} (h : IsPlace tree (dir ++ names)) (n : Nat) :
    Leads tree n dir names n (dir ++ names) := by
  induction names generalizing dir with
  | nil => rw [List.append_nil]; exact .here
  | cons name names ih =>
      have hcons : dir ++ name :: names = (dir ++ [name]) ++ names := by simp
      rw [hcons] at h ⊢
      obtain ⟨hs, hdirectory⟩ := h.straight.above
      obtain ⟨-, hd, hn⟩ := straight_concat.1 hs
      by_cases hnil : names = []
      · subst hnil
        obtain ⟨node, hnode, hlink⟩ := h.found
        rw [List.append_nil] at hnode
        exact .name hd hn hnode hlink (ih h)
      · exact .name hd hn (hdirectory hnil) (by simp) (ih h)

theorem IsPlace.canonical {path : Path} (h : IsPlace tree path)
    (hnul : path.any Path.hasNul = false) : tree.canonical path = .ok path :=
  canonical_eq_ok.2 ⟨hnul, maxLinks, (show IsPlace tree ([] ++ path) from h).leads maxLinks⟩

end FileTree

end Emend
