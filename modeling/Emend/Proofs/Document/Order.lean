import Mathlib.Data.List.Pairwise
import Emend.Proofs.Document.Composition
import Emend.Proofs.Document.Parts
/-!
# The order of parts

What has a name in a file section is put where the name says, so two parts with different
names can be read in either order (`Saying.add_comm`).  Texts without a label are filled in
by the order in which they come, but before or after what has a name makes no difference.

So the parts of a section whose names are distinct can be put in any order that keeps the
texts without a label in theirs: what is collected is the same (`Section.collect_perm`), and
with it what a document is read as (`parse_perm`).
-/

namespace Emend.Document

/-! ## Names -/

/-- The name of what a part says. -/
inductive Slot where
  | action
  | description
  | option (key : Text)
  | block (role : Role)
  deriving DecidableEq

namespace Saying

/-- The name of what is said, if it has one. -/
def slot? : Saying → Option Slot
  | action _ => some .action
  | description _ => some .description
  | option key _ => some (.option key)
  | block role _ => some (.block role)
  | unlabelled _ | nothing => none

/-- Whether it is a text without a label. -/
def isUnlabelled : Saying → Bool
  | unlabelled _ => true
  | _ => false

/-- Two sayings have not the same name. -/
def Apart (a b : Saying) : Prop := ∀ slot, a.slot? = some slot → b.slot? ≠ some slot

/-- What has different names can be said in either order, and what has a name before or after
what has none. -/
theorem add_comm {a b : Saying} (hslot : Apart a b)
    (hunlabelled : a.isUnlabelled = false ∨ b.isUnlabelled = false) (s : Section) :
    b.add (a.add s) = a.add (b.add s) := by
  cases a with
  | action | description =>
      cases b with
      | action | description => first | rfl | exact absurd rfl (hslot _ rfl)
      | option | block | unlabelled | nothing => rfl
  | option key value =>
      cases b with
      | option key' value' =>
          have hne : key ≠ key' := by
            rintro rfl
            exact hslot _ rfl rfl
          simp only [add, Section.addOption, Entries.put_comm hne]
      | action | description | block | unlabelled | nothing => rfl
  | block role body =>
      cases b with
      | block role' body' =>
          have hne : role ≠ role' := by
            rintro rfl
            exact hslot _ rfl rfl
          simp only [add, Section.addLabelled, Entries.put_comm hne]
      | action | description | option | unlabelled | nothing => rfl
  | unlabelled body =>
      cases b with
      | unlabelled => simp [isUnlabelled] at hunlabelled
      | action | description | option | block | nothing => rfl
  | nothing => rfl

/-- The sayings with a name have different ones. -/
def Distinct (sayings : List Saying) : Prop := (sayings.filterMap slot?).Nodup

theorem Distinct.apart {sayings : List Saying} (h : Distinct sayings) {a b : Saying}
    (ha : a ∈ sayings) (hb : b ∈ sayings) (hne : a ≠ b) : Apart a b := by
  have hpairs : sayings.Pairwise Apart := by
    refine (List.pairwise_filterMap.1 h).imp fun {a b} hab => ?_
    exact fun slot hslot hslot' => hab slot hslot slot hslot' rfl
  have : Std.Symm Apart := ⟨fun _ _ hab slot hb ha => hab slot ha hb⟩
  exact hpairs.forall ha hb hne

end Saying

/-! ## What is collected -/

namespace Section

/-- What is said without a label can be put behind the rest. -/
theorem collect_add_unlabelled {sayings : List Saying} {a : Saying} (ha : a.isUnlabelled)
    (h : ∀ b ∈ sayings, b.isUnlabelled = false) (s : Section) :
    (a.add s).collect sayings = a.add (s.collect sayings) := by
  have hslot : a.slot? = none := by cases a <;> first | rfl | cases ha
  induction sayings generalizing s with
  | nil => rfl
  | cons b sayings ih =>
      have hcomm := Saying.add_comm (a := a) (b := b) (fun slot hs => by simp [hslot] at hs)
        (.inr (h b List.mem_cons_self)) s
      have hrest := ih (fun c hc => h c (List.mem_cons_of_mem _ hc)) (b.add s)
      rw [← hcomm] at hrest
      exact hrest

/-- What has a name can be said first, and the texts without a label after it. -/
theorem collect_partition (sayings : List Saying) (s : Section) :
    s.collect sayings = (s.collect (sayings.filter fun a => !a.isUnlabelled)).collect
      (sayings.filter Saying.isUnlabelled) := by
  induction sayings generalizing s with
  | nil => rfl
  | cons a sayings ih =>
      have hrest := ih (a.add s)
      cases ha : a.isUnlabelled with
      | false =>
          simp only [List.filter_cons, ha, Bool.not_false, Bool.false_eq_true, if_true, if_false]
          exact hrest
      | true =>
          have hnamed : ∀ b ∈ sayings.filter fun a => !a.isUnlabelled, b.isUnlabelled = false :=
            fun b hb => by simpa using (List.mem_filter.1 hb).2
          rw [collect_add_unlabelled ha hnamed] at hrest
          simp only [List.filter_cons, ha, Bool.not_true, Bool.false_eq_true, if_true, if_false]
          exact hrest

/-- The order of what is said with distinct names makes no difference, as long as the texts
without a label keep theirs. -/
theorem collect_perm {sayings sayings' : List Saying} (hdistinct : Saying.Distinct sayings)
    (hperm : sayings.Perm sayings')
    (hunlabelled : sayings.filter Saying.isUnlabelled = sayings'.filter Saying.isUnlabelled)
    (s : Section) : s.collect sayings = s.collect sayings' := by
  rw [collect_partition sayings, collect_partition sayings', hunlabelled]
  congr 1
  refine (hperm.filter _).foldl_eq' (fun a ha b hb s => ?_) s
  obtain ⟨ha, hnamed⟩ := List.mem_filter.1 ha
  by_cases heq : a = b
  · rw [heq]
  · exact Saying.add_comm (hdistinct.apart ha (List.mem_filter.1 hb).1 heq)
      (.inl (by simpa using hnamed)) s

end Section

/-! ## Documents -/

namespace State

variable (defaults : MatchDefaults)

theorem run_failed (e : DocumentError) (number : Nat) (lines : List Text) :
    run defaults (failed e) number lines = failed e :=
  run_ofResult_done defaults (.error e) number lines

/-- The header of a file section begins one, or is a fault. -/
theorem step_fileHeader {state : State} (h : state.Listens) {raw header : Text}
    (hraw : Line.ofText raw = .fileHeader header) (number : Nat) :
    (∃ e, step defaults state number raw = failed e) ∨
      ∃ p s, s.pending = none ∧ step defaults state number raw = within p s := by
  obtain ⟨p, hp⟩ : ∃ p : Progress,
      step defaults state number raw = ofResult reading (p.beginSection defaults header number) := by
    cases state with
    | heading m => exact ⟨{ metadata := m }, by simp only [step, hraw]; rfl⟩
    | reading p => exact ⟨p, by simp only [step, hraw]; rfl⟩
    | seeking | inBlock | done | failed => exact h.elim
  rw [hp]
  unfold Progress.beginSection
  cases p.closeSection defaults with
  | error e => exact .inl ⟨e, rfl⟩
  | ok p =>
      cases hs : Section.ofHeader header number with
      | error e => exact .inl ⟨e, rfl⟩
      | ok s =>
          refine .inr ⟨p, s, ?_, rfl⟩
          unfold Section.ofHeader at hs
          split at hs
          split at hs <;> cases hs
          rfl

end State

/-- The order of the parts of a file section makes no difference.  The parts have distinct
names, and those without a label come in the same order in both documents, which are the same
otherwise. -/
theorem parse_perm (defaults : MatchDefaults) {t t' first header : Text} {front rest : List Text}
    {parts parts' : List Part}
    (ht : Text.documentLines t = front ++ first :: (parts.flatMap Part.lines ++ rest))
    (ht' : Text.documentLines t' = front ++ first :: (parts'.flatMap Part.lines ++ rest))
    (hfront : (State.run defaults .seeking 1 front).Listens)
    (hfirst : Line.ofText first = .fileHeader header)
    (hdistinct : Saying.Distinct (parts.map Part.saying)) (hperm : parts.Perm parts')
    (hunlabelled : parts.filter (fun part => part.saying.isUnlabelled) =
      parts'.filter (fun part => part.saying.isUnlabelled)) :
    parse defaults t = parse defaults t' := by
  have hsayings : (parts.map Part.saying).filter Saying.isUnlabelled =
      (parts'.map Part.saying).filter Saying.isUnlabelled := by
    rw [List.filter_map, List.filter_map]
    exact congrArg (List.map Part.saying) hunlabelled
  have hlength : (parts.flatMap Part.lines).length = (parts'.flatMap Part.lines).length :=
    (hperm.flatMap_right Part.lines).length_eq
  unfold parse
  rw [ht, ht', State.run_append, State.run_append, State.run, State.run]
  rcases State.step_fileHeader defaults hfront hfirst (1 + front.length) with
    ⟨e, he⟩ | ⟨p, s, hpending, hs⟩
  · rw [he, State.run_failed, State.run_failed]
  · rw [hs, State.run_append, State.run_append, run_parts defaults p parts hpending,
      run_parts defaults p parts' hpending, hlength,
      Section.collect_perm hdistinct (hperm.map Part.saying) hsayings]

/-! ## A section in two orders -/

/-- The action, a block after its label, and two texts without a label. -/
def replacementParts : List Part :=
  [⟨_, _, @Says.action "**Action:** replace".toList "replace".toList (by decide)⟩,
    ⟨_, _, @Says.labelled "**To:**".toList "TO".toList _ .outcome none _ (by decide) (by decide)
      (@Fenced.closed (.backtick none) "\x60\x60\x60".toList "\x60\x60\x60".toList
        ["new".toList] (by decide) (by decide) (by decide))⟩,
    ⟨_, _, @Says.unlabelled (.backtick none) _ _ (by decide) rfl
      (@Fenced.closed _ "\x60\x60\x60kotlin".toList "\x60\x60\x60".toList
        ["old".toList, "**Action:** delete".toList] (by decide) (by decide) (by decide))⟩,
    ⟨_, _, @Says.unlabelled (.backtick none) _ _ (by decide) rfl
      (@Fenced.closed _ "\x60\x60\x60".toList "\x60\x60\x60".toList [] (by decide) (by decide)
        (by decide))⟩]

/-- Options, one of them as a block, an anchor, and the description. -/
def settingParts : List Part :=
  [⟨_, _, @Says.item "- MATCH_MODE: contains".toList "MATCH_MODE".toList "contains".toList
      (by decide)⟩,
    ⟨_, _, @Says.overwrite (.sign "OVERWRITE".toList) _ _ rfl
      (@Fenced.closed _ "@@ OVERWRITE".toList "@@".toList ["yes".toList] (by decide) (by decide)
        (by decide))⟩,
    ⟨_, _, @Says.tagged (.bracket "ANCHOR".toList) .anchor _ _ (by decide)
      (@Fenced.closed _ "<<< ANCHOR".toList "ANCHOR >>>".toList ["fun main()".toList] (by decide)
        (by decide) (by decide))⟩,
    ⟨_, _, @Says.other [] (by decide)⟩,
    ⟨_, _, @Says.description "DESCRIPTION: d".toList ['d'] (by decide)⟩]

/-- The lines of a document with one section that has the given parts. -/
def sectionLines (parts : List Part) : List Text :=
  ["### PATCH: x".toList, "---".toList] ++ "#### File: a".toList :: (parts.flatMap Part.lines ++ [])

theorem parse_perm_replacement :
    parse {} (Text.join ['\n'] (sectionLines (replacementParts ++ settingParts))) =
      parse {} (Text.join ['\n'] (sectionLines (settingParts ++ replacementParts))) := by
  have hlines : Text.documentLines (Text.join ['\n']
      (sectionLines (replacementParts ++ settingParts))) =
        sectionLines (replacementParts ++ settingParts) := by decide
  have hlines' : Text.documentLines (Text.join ['\n']
      (sectionLines (settingParts ++ replacementParts))) =
        sectionLines (settingParts ++ replacementParts) := by decide
  have hfront : (State.run {} .seeking 1 ["### PATCH: x".toList, "---".toList]).Listens := trivial
  have hfirst : Line.ofText "#### File: a".toList = .fileHeader ['a'] := by decide
  have hdistinct : Saying.Distinct ((replacementParts ++ settingParts).map Part.saying) := by
    unfold Saying.Distinct
    decide
  have hlabelled : settingParts.filter (fun part => part.saying.isUnlabelled) = [] := rfl
  refine parse_perm {} hlines hlines' hfront hfirst hdistinct List.perm_append_comm ?_
  rw [List.filter_append, List.filter_append, hlabelled, List.append_nil, List.nil_append]

end Emend.Document
