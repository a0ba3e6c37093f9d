import Mathlib.Data.List.Infix
import Emend.Proofs.Text.Words
import Emend.Proofs.Workspace.Written
/-!
# Normal forms of written paths

The normal form of a written path is what is left of its parts when those that stand for no name
are left out and each `..` has cancelled the nearest name before it that is not cancelled yet
(`Path.Cancels`).  There is none if the path climbs: if somewhere on the way there have been more
`..` than names (`Path.Climbs`), it is of no use that names come later.

The fold of the guard finds the normal form, and fails exactly if the path climbs
(`fold_eq_some_iff`, `fold_eq_none_iff`).  Without links below the base nothing else is refused but
a path from the root, so the guard takes a written path for the base and its normal form
(`resolve_normalizes`).
-/

namespace Emend

open FileTree

namespace Path

/-! ## Cancelling -/

/-- Parts of which names are left. -/
inductive Cancels : List Text → Path → Prop where
  /-- Names alone are left as they are. -/
  | names {names : Path} : (∀ n ∈ names, isPlain n = true) → Cancels names names
  /-- A part that stands for no name is left out. -/
  | dot {front back : List Text} {part : Text} {names : Path} : isDot part = true →
      Cancels (front ++ back) names → Cancels (front ++ part :: back) names
  /-- A name and the `..` after it are left out. -/
  | up {front back : List Text} {name part : Text} {names : Path} : isPlain name = true →
      isDotDot part = true → Cancels (front ++ back) names →
        Cancels (front ++ name :: part :: back) names

variable {parts names : List Text} {part : Text} {height : Nat}

/-- What is left are names. -/
theorem Cancels.isPlain (h : Cancels parts names) : ∀ n ∈ names, isPlain n = true := by
  induction h with
  | names hplain => exact hplain
  | dot _ _ ih => exact ih
  | up _ _ _ ih => exact ih

/-- What is left has been there, in the same order. -/
theorem Cancels.sublist (h : Cancels parts names) : names.Sublist parts := by
  induction h with
  | names _ => exact List.Sublist.refl _
  | dot _ _ ih =>
      exact ih.trans ((List.Sublist.refl _).append (List.sublist_cons_self _ _))
  | up _ _ _ ih =>
      refine ih.trans ((List.Sublist.refl _).append ?_)
      exact (List.sublist_cons_self _ _).trans (List.sublist_cons_self _ _)

/-! ## Climbing -/

/-- Somewhere there have been more `..` than names, the names of the directory from which the
parts lead counted. -/
def Climbs (height : Nat) (parts : List Text) : Prop :=
  ∃ front, front <+: parts ∧ height + front.countP isPlain < front.countP isDotDot

instance : Decidable (Climbs height parts) :=
  decidable_of_iff (∃ front ∈ parts.inits,
      height + front.countP isPlain < front.countP isDotDot) <|
    exists_congr fun front => by rw [List.mem_inits]

theorem isDotDot_of_isDot (h : isDot part = true) : isDotDot part = false := by
  simp only [isDot, Bool.or_eq_true, List.isEmpty_iff, beq_iff_eq] at h
  rcases h with rfl | rfl <;> rfl

theorem not_climbs_nil : ¬ Climbs height [] := by
  rintro ⟨front, hfront, hlt⟩
  rw [List.prefix_nil.1 hfront] at hlt
  exact Nat.not_lt_zero _ hlt

/-- No `..` has come before the first part. -/
theorem climbs_cons : Climbs height (part :: parts) ↔ ∃ front, front <+: parts ∧
    height + (part :: front).countP isPlain < (part :: front).countP isDotDot := by
  constructor
  · rintro ⟨front, hfront, hlt⟩
    rcases List.prefix_cons_iff.1 hfront with rfl | ⟨rest, rfl, hrest⟩
    · exact absurd hlt (Nat.not_lt_zero _)
    · exact ⟨rest, hrest, hlt⟩
  · rintro ⟨rest, hrest, hlt⟩
    exact ⟨part :: rest, (List.prefix_cons_inj part).2 hrest, hlt⟩

theorem climbs_dot (h : isDot part = true) :
    Climbs height (part :: parts) ↔ Climbs height parts := by
  have hplain : ¬ isPlain part = true := fun hplain => by simp [(isPlain_iff.1 hplain).1] at h
  have hup : ¬ isDotDot part = true := by simp [isDotDot_of_isDot h]
  rw [climbs_cons, Climbs]
  simp only [List.countP_cons_of_neg hplain, List.countP_cons_of_neg hup]

theorem climbs_name (h : isPlain part = true) :
    Climbs height (part :: parts) ↔ Climbs (height + 1) parts := by
  have hup : ¬ isDotDot part = true := by simp [(isPlain_iff.1 h).2]
  rw [climbs_cons, Climbs]
  simp only [List.countP_cons_of_pos h, List.countP_cons_of_neg hup]
  refine exists_congr fun front => and_congr_right fun _ => ?_
  rw [Nat.add_right_comm, Nat.add_assoc]

theorem climbs_up_zero (h : isDotDot part = true) : Climbs 0 (part :: parts) := by
  have hplain : ¬ isPlain part = true := fun hplain => by simp [(isPlain_iff.1 hplain).2] at h
  refine climbs_cons.2 ⟨[], List.nil_prefix, ?_⟩
  rw [List.countP_cons_of_neg hplain, List.countP_cons_of_pos h]
  exact Nat.zero_lt_one

theorem climbs_up_succ (h : isDotDot part = true) :
    Climbs (height + 1) (part :: parts) ↔ Climbs height parts := by
  have hplain : ¬ isPlain part = true := fun hplain => by simp [(isPlain_iff.1 hplain).2] at h
  rw [climbs_cons, Climbs]
  simp only [List.countP_cons_of_neg hplain, List.countP_cons_of_pos h]
  refine exists_congr fun front => and_congr_right fun _ => ?_
  rw [Nat.add_right_comm, Nat.add_lt_add_iff_right]

end Path

namespace Guard

variable {parts names kept : List Text} {part : Text}

/-! ## What the fold finds -/

theorem fold_dot (h : Path.isDot part = true) : fold kept (part :: parts) = fold kept parts := by
  rw [fold, if_pos h]

theorem fold_name (h : Path.isPlain part = true) :
    fold kept (part :: parts) = fold (kept ++ [part]) parts := by
  obtain ⟨hdot, hup⟩ := Path.isPlain_iff.1 h
  rw [fold, if_neg (by simp [hdot]), if_neg (by simp [hup])]

theorem fold_up (h : Path.isDotDot part = true) :
    fold kept (part :: parts) = if kept.isEmpty then none else fold kept.dropLast parts := by
  have hdot : ¬ Path.isDot part = true := fun hdot => by
    rw [Path.isDotDot_of_isDot hdot] at h
    cases h
  rw [fold, if_neg hdot, if_pos h]

/-- Each part stands for no name, for the directory above, or for a name. -/
theorem part_cases (part : Text) :
    Path.isDot part = true ∨ Path.isDotDot part = true ∨ Path.isPlain part = true := by
  rw [Path.isPlain_iff]
  cases Path.isDot part with
  | true => exact .inl rfl
  | false =>
      cases Path.isDotDot part with
      | true => exact .inr (.inl rfl)
      | false => exact .inr (.inr ⟨rfl, rfl⟩)

theorem fold_append (kept front back : List Text) :
    fold kept (front ++ back) = (fold kept front).bind fun names => fold names back := by
  induction front generalizing kept with
  | nil => rfl
  | cons part front ih =>
      rw [List.cons_append]
      rcases part_cases part with h | h | h
      · rw [fold_dot h, fold_dot h, ih]
      · rw [fold_up h, fold_up h]
        split
        · rfl
        · exact ih _
      · rw [fold_name h, fold_name h, ih]

/-- A `..` takes away the name that has just been kept. -/
theorem fold_name_up {name : Text} (hname : Path.isPlain name = true)
    (hup : Path.isDotDot part = true) : fold kept (name :: part :: parts) = fold kept parts := by
  rw [fold_name hname, fold_up hup, if_neg (by simp), List.dropLast_concat]

theorem fold_of_cancels (h : Path.Cancels parts names) : fold [] parts = some names := by
  induction h with
  | names hplain => exact fold_of_plain hplain []
  | dot hdot _ ih =>
      rw [fold_append] at ih ⊢
      simpa only [fold_dot hdot] using ih
  | up hname hup _ ih =>
      rw [fold_append] at ih ⊢
      simpa only [fold_name_up hname hup] using ih

/-- The names that are kept so far stand before the parts that remain. -/
theorem cancels_of_fold (hkept : ∀ n ∈ kept, Path.isPlain n = true)
    (h : fold kept parts = some names) : Path.Cancels (kept ++ parts) names := by
  induction parts generalizing kept with
  | nil =>
      cases h
      rw [List.append_nil]
      exact .names hkept
  | cons part parts ih =>
      rcases part_cases part with hpart | hpart | hpart
      · rw [fold_dot hpart] at h
        exact .dot hpart (ih hkept h)
      · rw [fold_up hpart] at h
        rcases List.eq_nil_or_concat kept with rfl | ⟨above, name, rfl⟩
        · cases h
        · rw [List.concat_eq_append] at h hkept ⊢
          rw [List.dropLast_concat, if_neg (by simp)] at h
          have habove := ih (fun n hn => hkept n (List.mem_append_left _ hn)) h
          rw [List.append_assoc]
          exact .up (hkept name (by simp)) hpart habove
      · rw [fold_name hpart] at h
        have hmore : ∀ n ∈ kept ++ [part], Path.isPlain n = true := by
          intro n hn
          rcases List.mem_append.1 hn with hn | hn
          · exact hkept n hn
          · exact List.mem_singleton.1 hn ▸ hpart
        have hrest := ih hmore h
        rwa [List.append_assoc] at hrest

theorem fold_eq_some_iff : fold [] parts = some names ↔ Path.Cancels parts names :=
  ⟨cancels_of_fold (by simp), fold_of_cancels⟩

/-- The names that are kept so far are the height that is reached. -/
theorem fold_eq_none_iff : fold kept parts = none ↔ Path.Climbs kept.length parts := by
  induction parts generalizing kept with
  | nil => simp [fold, Path.not_climbs_nil]
  | cons part parts ih =>
      rcases part_cases part with h | h | h
      · rw [fold_dot h, Path.climbs_dot h, ih]
      · rw [fold_up h]
        rcases List.eq_nil_or_concat kept with rfl | ⟨above, name, rfl⟩
        · simp [Path.climbs_up_zero h]
        · rw [List.concat_eq_append, List.dropLast_concat, if_neg (by simp), List.length_append,
            List.length_singleton, Path.climbs_up_succ h, ih]
      · rw [fold_name h, Path.climbs_name h, ih, List.length_append, List.length_singleton]

theorem exists_cancels_iff : (∃ names, Path.Cancels parts names) ↔ ¬ Path.Climbs 0 parts := by
  have hclimbs : fold [] parts = none ↔ Path.Climbs 0 parts := fold_eq_none_iff
  rw [← hclimbs, ← ne_eq, Option.ne_none_iff_exists']
  exact exists_congr fun names => fold_eq_some_iff.symm

/-- A path has at most one normal form. -/
theorem cancels_unique {other : Path} (h : Path.Cancels parts names) :
    Path.Cancels parts other ↔ other = names := by
  rw [← fold_eq_some_iff, fold_of_cancels h, Option.some.injEq]
  exact eq_comm

end Guard

/-! ## Normal forms as written paths -/

namespace Path

variable {written : Text} {names : Path}

theorem isAbsolute_iff : isAbsolute written = true ↔ written.head? = some '/' := by
  cases written with
  | nil => simp [isAbsolute, Text.startsWith, Text.afterLead?]
  | cons c t =>
      by_cases hc : c = '/'
      · simp [isAbsolute, Text.startsWith, Text.afterLead?, hc]
      · simp [isAbsolute, Text.startsWith, Text.afterLead?, hc]

/-- The names of a written path hold no slash. -/
theorem Cancels.not_mem_slash (h : Cancels (parts written) names) : ∀ n ∈ names, '/' ∉ n :=
  fun _ hn => Text.not_mem_of_mem_splitOn (h.sublist.subset hn)

/-- Names that are written one after the other are the normal form of what is written. -/
theorem cancels_join (hplain : ∀ n ∈ names, isPlain n = true) (hslash : ∀ n ∈ names, '/' ∉ n) :
    (Text.join ['/'] names).head? ≠ some '/' ∧ Cancels (parts (Text.join ['/'] names)) names := by
  cases names with
  | nil =>
      have hempty : Cancels ([] ++ [[]]) [] := .dot rfl (.names (by simp))
      exact ⟨by simp [Text.join], hempty⟩
  | cons name rest =>
      constructor
      · intro hhead
        obtain ⟨hdot, -⟩ := isPlain_iff.1 (hplain name List.mem_cons_self)
        cases name with
        | nil => cases hdot
        | cons c name =>
            have hc : c = '/' := by
              cases rest with
              | nil => simpa [Text.join] using hhead
              | cons next rest => simpa [Text.join] using hhead
            exact hslash (c :: name) List.mem_cons_self (hc ▸ List.mem_cons_self)
      · rw [parts, Text.splitOn_join (List.cons_ne_nil _ _) hslash]
        exact .names hplain

end Path

/-! ## What the guard takes a written path for -/

namespace Guard

variable {tree : FileTree} {base path : Path} {written : Text}

theorem resolve_absolute (h : written.head? = some '/') :
    resolve tree base written = .error (.absolute written) := by
  rw [resolve, if_pos (Path.isAbsolute_iff.2 h)]

theorem resolve_climbing (h : written.head? ≠ some '/') (hc : Path.Climbs 0 (Path.parts written)) :
    resolve tree base written =
      .error (.outside (Path.joinText (Path.display base) written) (Path.display base)) := by
  have hfold : fold [] (Path.parts written) = none := fold_eq_none_iff.2 hc
  rw [resolve, if_neg (mt Path.isAbsolute_iff.1 h), hfold]

section LinkFree

variable (hg : Grounded tree base) (hfree : LinkFree base tree)

include hg hfree

/-- The guard lets the base and a normal form pass, as no link can lead outside. -/
theorem resolve_eq_ok_iff : resolve tree base written = .ok path ↔ written.head? ≠ some '/' ∧
    ∃ names, Path.Cancels (Path.parts written) names ∧ path = base ++ names := by
  rw [resolve_iff]
  constructor
  · rintro ⟨names, habsolute, hfold, rfl, -⟩
    refine ⟨fun hhead => ?_, names, fold_eq_some_iff.1 hfold, rfl⟩
    rw [Path.isAbsolute_iff.2 hhead] at habsolute
    cases habsolute
  · rintro ⟨hhead, names, hcancels, rfl⟩
    refine ⟨names, ?_, fold_of_cancels hcancels, rfl, allows_of_linkFree hg hfree ?_⟩
    · exact Bool.eq_false_iff.2 (mt Path.isAbsolute_iff.1 hhead)
    · refine ⟨List.prefix_append base names, fun n hn => ?_⟩
      rcases List.mem_append.1 hn with hn | hn
      · exact Path.isPlain_of_isName (hg.names n hn)
      · exact hcancels.isPlain n hn

/-- Without links below the base the guard refuses paths from the root and paths that climb, and
nothing else: any other path it takes for the base and the normal form of the path.  So what it
lets pass is at the base or below it and has no `..`, is the same for two paths exactly if
they have the same normal form, and is found again when it is written from the base on. -/
theorem resolve_normalizes (written : Text) :
    (∀ text, resolve tree base written = .error (.absolute text) ↔
      written.head? = some '/' ∧ text = written) ∧
    (∀ place root, resolve tree base written = .error (.outside place root) ↔
      written.head? ≠ some '/' ∧ Path.Climbs 0 (Path.parts written) ∧
        place = Path.joinText (Path.display base) written ∧ root = Path.display base) ∧
    (written.head? ≠ some '/' → ¬ Path.Climbs 0 (Path.parts written) →
      ∃ names, (∀ other, Path.Cancels (Path.parts written) other ↔ other = names) ∧
        resolve tree base written = .ok (base ++ names)) ∧
    ∀ path, resolve tree base written = .ok path →
      base <+: path ∧ (∀ n ∈ path, Path.isDotDot n = false) ∧
        resolve tree base (Text.join ['/'] (path.drop base.length)) = .ok path ∧
        ∀ other, resolve tree base other = .ok path ↔ other.head? ≠ some '/' ∧
          ∃ names, Path.Cancels (Path.parts written) names ∧
            Path.Cancels (Path.parts other) names := by
  have hpasses : written.head? ≠ some '/' → ¬ Path.Climbs 0 (Path.parts written) →
      ∃ names, Path.Cancels (Path.parts written) names ∧
        resolve tree base written = .ok (base ++ names) := by
    intro hhead hclimbs
    obtain ⟨names, hcancels⟩ := exists_cancels_iff.2 hclimbs
    exact ⟨names, hcancels, (resolve_eq_ok_iff hg hfree).2 ⟨hhead, names, hcancels, rfl⟩⟩
  refine ⟨fun text => ?_, fun place root => ?_, fun hhead hclimbs => ?_, fun path hpath => ?_⟩
  · by_cases hhead : written.head? = some '/'
    · simp [resolve_absolute hhead, hhead, eq_comm]
    · by_cases hclimbs : Path.Climbs 0 (Path.parts written)
      · simp [resolve_climbing hhead hclimbs, hhead]
      · obtain ⟨names, -, hok⟩ := hpasses hhead hclimbs
        simp [hok, hhead]
  · by_cases hhead : written.head? = some '/'
    · simp [resolve_absolute hhead, hhead]
    · by_cases hclimbs : Path.Climbs 0 (Path.parts written)
      · simp [resolve_climbing hhead hclimbs, hhead, hclimbs, eq_comm]
      · obtain ⟨names, -, hok⟩ := hpasses hhead hclimbs
        simp [hok, hclimbs]
  · obtain ⟨names, hcancels, hok⟩ := hpasses hhead hclimbs
    exact ⟨names, fun other => cancels_unique hcancels, hok⟩
  · obtain ⟨-, names, hcancels, rfl⟩ := (resolve_eq_ok_iff hg hfree).1 hpath
    refine ⟨List.prefix_append base names, fun n hn => ?_, ?_, fun other => ?_⟩
    · exact (Path.isPlain_iff.1 ((hg.of_resolve hpath).1 n hn)).2
    · obtain ⟨hhead, hagain⟩ := Path.cancels_join hcancels.isPlain hcancels.not_mem_slash
      rw [List.drop_left]
      exact (resolve_eq_ok_iff hg hfree).2 ⟨hhead, names, hagain, rfl⟩
    · rw [resolve_eq_ok_iff hg hfree]
      refine and_congr_right fun _ => exists_congr fun found => ?_
      rw [List.append_cancel_left_eq, cancels_unique hcancels, eq_comm, and_comm]

end LinkFree

/-- A base `/w` with the directory `/w/d` and the file `/w/d/f`. -/
def oneDirectory : FileTree where
  entries := [([['w']], .directory), ([['w'], ['d']], .directory),
    ([['w'], ['d'], ['f']], .file [])]

/-- A path that climbs out of the base is refused, though it comes back; a path that climbs to the
base only is taken for what comes after. -/
theorem resolve_normalizes_turns :
    Grounded oneDirectory [['w']] ∧ LinkFree [['w']] oneDirectory ∧
      resolve oneDirectory [['w']] "d/../../w/d".toList =
        .error (.outside "/w/d/../../w/d".toList "/w".toList) ∧
      resolve oneDirectory [['w']] "d//./f/../..//n/.".toList = .ok [['w'], ['n']] ∧
      resolve oneDirectory [['w']] "n".toList = .ok [['w'], ['n']] := by
  have hg : Grounded oneDirectory [['w']] := ⟨closed_of_entries (by decide), rfl, rfl⟩
  have hfree : LinkFree [['w']] oneDirectory := linkFree_of_entries (by simp [oneDirectory])
  obtain ⟨-, houtside, -⟩ := resolve_normalizes hg hfree "d/../../w/d".toList
  obtain ⟨-, -, hinside, hsame⟩ := resolve_normalizes hg hfree "d//./f/../..//n/.".toList
  have hturns : Path.Cancels (Path.parts "d//./f/../..//n/.".toList) [['n']] :=
    fold_eq_some_iff.1 (by decide)
  have hplain : Path.Cancels (Path.parts "n".toList) [['n']] := fold_eq_some_iff.1 (by decide)
  obtain ⟨names, hnames, hok⟩ := hinside (by decide) (by decide)
  obtain rfl := (hnames [['n']]).1 hturns
  refine ⟨hg, hfree, (houtside _ _).2 ⟨by decide, by decide, by decide, by decide⟩, hok, ?_⟩
  obtain ⟨-, -, -, hother⟩ := hsame _ hok
  exact (hother "n".toList).2 ⟨by decide, [['n']], hturns, hplain⟩

end Guard

end Emend
