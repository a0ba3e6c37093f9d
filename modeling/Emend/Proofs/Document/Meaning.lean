import Emend.Proofs.Document.Draft
import Emend.Proofs.Document.Options
import Emend.Proofs.Text.Numbers
/-!
# What drafts mean

The section that is collected from a draft (`FileDraft.collected`) has every option and every
block that the draft gives, under its key and under its role.  So it is built into the file
patch that the draft stands for (`build_collected`).
-/

namespace Emend.Document

/-! ## Texts by key -/

section TextsOf

variable {κ : Type} {key : κ} {keys : List κ} {text? : κ → Option Text}

theorem textsOf_cons_of_none (h : text? key = none) :
    textsOf (key :: keys) text? = textsOf keys text? := by
  simp [textsOf, h]

theorem textsOf_cons_of_some {t : Text} (h : text? key = some t) :
    textsOf (key :: keys) text? = (key, t) :: textsOf keys text? := by
  simp [textsOf, h]

theorem mem_textsOf {t : κ × Text} (h : t ∈ textsOf keys text?) : text? t.1 = some t.2 := by
  obtain ⟨key, -, hkey⟩ := List.mem_filterMap.1 h
  obtain ⟨value, hvalue, rfl⟩ := Option.map_eq_some_iff.1 hkey
  exact hvalue

end TextsOf

namespace Entries

variable {κ : Type} [DecidableEq κ]

/-- Texts set one after the other. -/
def putAll (texts : List (κ × Text)) (entries : Entries κ) : Entries κ :=
  texts.foldl (fun e p => e.put p.1 p.2) entries

theorem putAll_cons (p : κ × Text) (texts : List (κ × Text)) (entries : Entries κ) :
    putAll (p :: texts) entries = putAll texts (entries.put p.1 p.2) := rfl

variable {α : Type} (text? : α → Option Text) (name : α → κ)

theorem putAll_textsOf [DecidableEq α] {a : α}
    (hname : ∀ b, (text? b).isSome → name b = name a → b = a) (keys : List α) (entries : Entries κ) :
    putAll ((textsOf keys text?).map fun p => (name p.1, p.2)) entries (name a) =
      if a ∈ keys then (text? a).or (entries (name a)) else entries (name a) := by
  induction keys generalizing entries with
  | nil => rfl
  | cons b keys ih =>
      cases hb : text? b with
      | none =>
          rw [textsOf_cons_of_none hb, ih]
          by_cases hab : a = b
          · simp [hab, hb]
          · simp [hab]
      | some t =>
          rw [textsOf_cons_of_some hb, List.map_cons, putAll_cons, ih]
          by_cases hab : a = b
          · subst hab
            simp [hb, put_self]
          · have hne : name a ≠ name b := fun h => hab (hname b (by simp [hb]) h.symm).symm
            simp [hab, put_of_ne hne]

theorem putAll_textsOf_of_ne {key : κ} (hname : ∀ b, (text? b).isSome → name b ≠ key)
    (keys : List α) (entries : Entries κ) :
    putAll ((textsOf keys text?).map fun p => (name p.1, p.2)) entries key = entries key := by
  induction keys generalizing entries with
  | nil => rfl
  | cons b keys ih =>
      cases hb : text? b with
      | none =>
          rw [textsOf_cons_of_none hb, ih]
      | some t =>
          rw [textsOf_cons_of_some hb, List.map_cons, putAll_cons, ih]
          exact put_of_ne (hname b (by simp [hb])).symm t entries

end Entries

/-! ## The section -/

/-- The role under which a block is collected. -/
def Wording.place (w : Wording) (role : Role) : Role :=
  if w.label role = "TO" then .outcome else role

theorem Wording.label_mem (w : Wording) (role : Role) : w.label role ∈ (w.place role).labels := by
  unfold place
  split
  · next hto => rw [hto]; exact List.mem_singleton_self _
  · next hto => exact (w.labels role).resolve_right fun h => hto h.1

/-- The section that is collected from a draft. -/
def FileDraft.collected (w : Wording) (f : FileDraft) : Section :=
  { path := f.path
    action := some f.action.kind.name.toList
    description := f.description
    options := Entries.putAll (f.action.options.map fun p => (p.1.name.toList, p.2)) Entries.none
    labelled := Entries.putAll (f.action.blocks.map fun p => (w.place p.1, p.2)) Entries.none }

theorem OptionKey.name_injective {a b : OptionKey} (h : a.name.toList = b.name.toList) : a = b := by
  have hall : ∀ a ∈ OptionKey.all, ∀ b ∈ OptionKey.all, a.name.toList = b.name.toList → a = b := by
    decide
  exact hall a (mem_all a) b (mem_all b) h

theorem collected_options (w : Wording) (f : FileDraft) (key : OptionKey) :
    (f.collected w).options key.name.toList = f.action.given key := by
  have h := Entries.putAll_textsOf f.action.given (fun k : OptionKey => k.name.toList) (a := key)
    (fun b _ hb => OptionKey.name_injective hb) OptionKey.all Entries.none
  rw [if_pos (OptionKey.mem_all key)] at h
  exact h.trans (Option.or_none)

/-! ## The blocks -/

theorem Wording.place_cases (w : Wording) (role : Role) :
    w.place role = role ∨
      w.place role = .outcome ∧ (role = .replacement ∨ role = .destination) := by
  unfold place
  split
  · next hto =>
    rcases w.labels role with hmem | ⟨-, hrole⟩
    · rw [hto] at hmem
      refine .inl ?_
      cases role <;> first | rfl | exact absurd hmem (by decide)
    · exact .inr ⟨rfl, hrole⟩
  · exact .inl rfl

/-- The role that the block `TO` has for an action. -/
def outcomeRole (kind : ActionKind) : Role :=
  if kind = .moveFile then .destination else .replacement

theorem ActionDraft.eq_outcomeRole {a : ActionDraft} {role : Role} (h : (a.block role).isSome)
    (hrole : role = .replacement ∨ role = .destination) : role = outcomeRole a.kind := by
  rcases hrole with rfl | rfl
  all_goals cases a <;> first | rfl | cases h

/-- A role has the block that is collected under it, or the block `TO`. -/
theorem settleTo_apply (kind : ActionKind) (blocks : Entries Role) {role : Role}
    (hrole : role ≠ .outcome) :
    settleTo kind blocks role =
      if role = outcomeRole kind then (blocks role).or (blocks .outcome) else blocks role := by
  have herase : ∀ r, r ≠ .outcome → blocks.erase .outcome r = blocks r :=
    fun r hr => if_neg hr
  have hne : outcomeRole kind ≠ .outcome := by
    unfold outcomeRole
    split <;> decide
  cases hto : blocks .outcome with
  | none => simp [settleTo, hto]
  | some body =>
      have hsettle : settleTo kind blocks =
          if (blocks.erase .outcome (outcomeRole kind)).isSome then blocks.erase .outcome
          else (blocks.erase .outcome).put (outcomeRole kind) body := by
        simp only [settleTo, hto]
        rfl
      rw [hsettle, herase _ hne]
      by_cases heq : role = outcomeRole kind
      · subst heq
        cases hblock : blocks (outcomeRole kind) with
        | none => simp [Entries.put_self]
        | some t => simp [herase _ hne, hblock]
      · rw [if_neg heq]
        split
        · exact herase role hrole
        · rw [Entries.put_of_ne heq]
          exact herase role hrole

section Blocks

variable (w : Wording) (f : FileDraft)

theorem collected_labelled {role : Role} (hrole : role ≠ .outcome) :
    (f.collected w).labelled role =
      if w.place role = role then f.action.block role else none := by
  -- Only a role that is collected under itself, or `TO`, could be meant.
  have hplace : ∀ b, w.place b = role → b = role := by
    intro b hb
    rcases w.place_cases b with h | ⟨h, -⟩
    · exact h.symm.trans hb
    · exact absurd (hb.symm.trans h) hrole
  split
  · next hself =>
    have h := Entries.putAll_textsOf f.action.block w.place (a := role)
      (fun b _ hb => hplace b (hb.trans hself))
      [.target, .replacement, .content, .anchor, .destination] Entries.none
    have hmem : role ∈ [Role.target, .replacement, .content, .anchor, .destination] := by
      cases role <;> first | decide | exact absurd rfl hrole
    rw [if_pos hmem, hself] at h
    exact h.trans Option.or_none
  · next hself =>
    exact Entries.putAll_textsOf_of_ne f.action.block w.place
      (fun b _ hb => hself (hplace b hb ▸ hb)) _ Entries.none

theorem collected_outcome :
    (f.collected w).labelled .outcome =
      if w.place (outcomeRole f.action.kind) = .outcome then
        f.action.block (outcomeRole f.action.kind)
      else none := by
  have hplace : ∀ b, (f.action.block b).isSome → w.place b = .outcome →
      b = outcomeRole f.action.kind := by
    intro b hsome hb
    rcases w.place_cases b with h | ⟨-, h⟩
    · obtain rfl : b = .outcome := h.symm.trans hb
      cases hsome
    · exact ActionDraft.eq_outcomeRole hsome h
  split
  · next hself =>
    have h := Entries.putAll_textsOf f.action.block w.place
      (a := outcomeRole f.action.kind) (fun b hsome hb => hplace b hsome (hb.trans hself))
      [.target, .replacement, .content, .anchor, .destination] Entries.none
    have hmem : outcomeRole f.action.kind ∈
        [Role.target, .replacement, .content, .anchor, .destination] := by
      unfold outcomeRole
      split <;> decide
    rw [if_pos hmem, hself] at h
    exact h.trans Option.or_none
  · next hself =>
    exact Entries.putAll_textsOf_of_ne f.action.block w.place
      (fun b hsome hb => hself (hplace b hsome hb ▸ hb)) _ Entries.none

/-- Each block is found under its role, whichever of its labels it was given. -/
theorem collected_block (role : Role) (hrole : role ≠ .outcome) :
    (f.collected w).blocks f.action.kind role = f.action.block role := by
  have hblocks : (f.collected w).blocks f.action.kind =
      settleTo f.action.kind (f.collected w).labelled := rfl
  rw [hblocks, settleTo_apply _ _ hrole, collected_labelled w f hrole, collected_outcome]
  rcases w.place_cases role with hself | ⟨hto, hcases⟩
  · rw [if_pos hself]
    split
    · next heq =>
      rw [← heq, hself, if_neg hrole, Option.or_none]
    · rfl
  · rw [hto, if_neg hrole.symm]
    split
    · next heq =>
      rw [← heq, hto, if_pos rfl]
      rfl
    · next hne =>
      cases hblock : f.action.block role with
      | none => rfl
      | some t => exact absurd (ActionDraft.eq_outcomeRole (by simp [hblock]) hcases) hne

end Blocks

/-! ## Values -/

theorem all_of_threshold? {t : Text} {x : Float} (h : threshold? t = some x) :
    t.all Text.isValueChar := by
  unfold threshold? at h
  obtain ⟨y, hy, -⟩ := Option.bind_eq_some_iff.1 h
  exact Decimal.all_of_float? hy

theorem all_flagText (value : Bool) : (flagText value).all Text.isValueChar := by
  cases value <;> decide

theorem all_depthText (n : Int) : (depthText n).all Text.isValueChar := by
  unfold depthText
  split
  · decide
  · exact Text.all_ofNat _

theorem depth?_depthText {n : Int} (h : -1 ≤ n ∧ n ≤ 0x7FFFFFFF) :
    depth? (Text.trim (depthText n)) = some n := by
  rw [Text.trim_of_solid (Text.solid_of_isValueChar (all_depthText n))]
  unfold depthText
  split
  · obtain rfl : n = -1 := by omega
    decide
  · have hint := Text.int32?_ofNat (n := n.toNat) (by omega)
    rw [Int.toNat_of_nonneg (by omega)] at hint
    simp [depth?, hint, h.1]

theorem flag_flagText (value : Option Bool) (otherwise : Bool) :
    flag (value.map flagText) otherwise = value.getD otherwise := by
  rcases value with _ | _ | _ <;> cases otherwise <;> rfl

section Reading

variable {defaults : MatchDefaults} (file : Text) {options : Entries Text}

theorem modeOption_name {key : String} {mode : Option MatchMode}
    (h : options key.toList = mode.map (·.name.toList)) (otherwise : MatchMode) :
    modeOption file options key otherwise = .ok (mode.getD otherwise) := by
  unfold modeOption
  rw [h]
  rcases mode with _ | mode
  · rfl
  · cases mode <;> rfl

theorem scopeOption_name {scope : Option AnchorScope}
    (h : options "ANCHOR_SCOPE".toList = scope.map (·.name.toList)) :
    scopeOption file options = .ok (scope.getD .auto) := by
  unfold scopeOption
  rw [h]
  rcases scope with _ | scope
  · rfl
  · cases scope <;> rfl

theorem readOption_given {α : Type} {key : String} {read? : Text → Option α}
    {written : Option Text} {value : Option α} (h : options key.toList = written)
    (hread : (written.map fun t => read? (Text.trim t)) = value.map some) (reason : String)
    (otherwise : α) :
    readOption file options key read? reason otherwise = .ok (value.getD otherwise) := by
  unfold readOption
  rw [h]
  cases written with
  | none =>
      cases value with
      | none => rfl
      | some a => cases hread
  | some t =>
      cases value with
      | none => cases hread
      | some a =>
          have hsome : read? (Text.trim t) = some a := Option.some.inj hread
          simp only [hsome]
          rfl

theorem checkPattern_ok {pattern : Text} {caseSensitive : Bool}
    (h : ∃ node, Pattern.ofText caseSensitive pattern = .ok node) :
    checkPattern file pattern caseSensitive = .ok () := by
  obtain ⟨node, h⟩ := h
  unfold checkPattern
  rw [h]

theorem checkTarget_ok {target : Text} {m : MatchOptions}
    (hlines : m.mode = .lineRange → ∃ first last,
      Literal.parseLineRange? target = some (first, last) ∧ 1 ≤ first ∧ first ≤ last)
    (hpattern : m.mode = .regex →
      ∃ node, Pattern.ofText m.folding.caseSensitive target = .ok node) :
    checkTarget file target m = .ok () := by
  unfold checkTarget
  split
  · next hmode =>
    obtain ⟨first, last, hparse, hfirst, hlast⟩ := hlines hmode
    simp [hparse, hfirst, hlast]
  · next hmode => exact checkPattern_ok file (hpattern hmode)
  · rfl

variable {o : OptionsDraft} (hgiven : ∀ key : OptionKey, options key.name.toList = o.given key)
include hgiven

/-- The anchor is read with the options that are given for it. -/
theorem anchorOption_given (defaults : MatchDefaults) {caseSensitive : Bool}
    (hvalid : ∀ a, o.anchor = some a → a.Valid caseSensitive) :
    anchorOption file options (o.anchor.map AnchorDraft.text) defaults.anchorDepth caseSensitive =
      .ok (o.options defaults).anchor := by
  unfold OptionsDraft.options
  cases ha : o.anchor with
  | none => rfl
  | some a =>
      obtain ⟨hdepth, hpattern⟩ := hvalid a ha
      have hmode : options "ANCHOR_MATCH_MODE".toList = a.mode.map (·.name.toList) :=
        (hgiven .anchorMode).trans (by rw [OptionsDraft.given, ha]; rfl)
      have hscope : options "ANCHOR_SCOPE".toList = a.scope.map (·.name.toList) :=
        (hgiven .anchorScope).trans (by rw [OptionsDraft.given, ha]; rfl)
      have hlevel : options "ANCHOR_SEARCH_DEPTH".toList = a.depth.map depthText :=
        (hgiven .anchorDepth).trans (by rw [OptionsDraft.given, ha]; rfl)
      have hcheck : checkMode file (a.mode.getD .normalized) a.text caseSensitive = .ok () := by
        unfold checkMode
        split
        · next hregex => exact checkPattern_ok file (hpattern hregex)
        · rfl
      have hread : ((a.depth.map depthText).map fun t => depth? (Text.trim t)) =
          a.depth.map some := by
        cases hn : a.depth with
        | none => rfl
        | some n => exact congrArg some (depth?_depthText (hdepth n hn))
      unfold anchorOption
      simp only [Option.map_some]
      rw [anchorOf_eq, modeOption_name file hmode, scopeOption_name file hscope,
        readOption_given file hlevel hread]
      simp only [bind, Except.bind, hcheck]
      rfl

/-- The flags are read as they are given. -/
theorem flagged_given (m : MatchOptions) :
    flagged options m =
      { m with
        folding :=
          { ignoreComments := (o.flags .ignoreComments).getD m.folding.ignoreComments
            ignoreEmptyLines := (o.flags .ignoreEmptyLines).getD m.folding.ignoreEmptyLines
            caseSensitive := (o.flags .caseSensitive).getD m.folding.caseSensitive }
        checks :=
          { functionName := (o.flags .functionName).getD m.checks.functionName
            className := (o.flags .className).getD m.checks.className
            parameterTypes := (o.flags .parameterTypes).getD m.checks.parameterTypes
            parameterNames := (o.flags .parameterNames).getD m.checks.parameterNames
            returnType := (o.flags .returnType).getD m.checks.returnType
            modifiers := (o.flags .modifiers).getD m.checks.modifiers } } := by
  have hflag : ∀ (f : Flag) (otherwise : Bool),
      flag (options f.name.toList) otherwise = (o.flags f).getD otherwise := by
    intro f otherwise
    rw [show f.name = (OptionKey.flag f).name from rfl, hgiven]
    exact flag_flagText _ otherwise
  simp only [← hflag]
  rfl

/-- The options of a match are read as they are given. -/
theorem matchOptions_given {target : Text} (hvalid : o.Valid defaults target) :
    matchOptions defaults file target options (o.anchor.map AnchorDraft.text) =
      .ok (o.options defaults) := by
  have hmode : options "MATCH_MODE".toList = o.mode.map (·.name.toList) := hgiven .mode
  have hthreshold : options "FUZZY_THRESHOLD".toList = o.threshold := hgiven .threshold
  have hwindow : options "TOKEN_WINDOW_SIZE".toList = o.windowSize.map Text.ofNat :=
    hgiven .windowSize
  have hscore : (o.threshold.map fun t => threshold? (Text.trim t)) =
      (o.threshold.bind threshold?).map some := by
    cases ht : o.threshold with
    | none => rfl
    | some t =>
        obtain ⟨x, hx⟩ := hvalid.threshold t ht
        have htrim := Text.trim_of_solid (Text.solid_of_isValueChar (all_of_threshold? hx))
        simp [htrim, hx]
  have hcount : ((o.windowSize.map Text.ofNat).map fun t => Text.count? (Text.trim t)) =
      o.windowSize.map some := by
    cases hn : o.windowSize with
    | none => rfl
    | some n =>
        have htrim := Text.trim_of_solid (Text.solid_of_isValueChar (Text.all_ofNat n))
        simp [htrim, Text.count?_ofNat (hvalid.windowSize n hn)]
  have hanchor := anchorOption_given file hgiven defaults hvalid.anchor
  have htarget := checkTarget_ok file hvalid.lineRange hvalid.pattern
  rw [matchOptions_eq, modeOption_name file hmode, readOption_given file hthreshold hscore,
    readOption_given file hwindow hcount]
  have hflags := flagged_given hgiven
    { defaults.options with
      mode := o.mode.getD defaults.options.mode
      threshold := (o.threshold.bind threshold?).getD defaults.options.threshold
      windowSize := o.windowSize.getD defaults.options.windowSize }
  change flagged options _ = { o.options defaults with anchor := defaults.options.anchor } at hflags
  simp only [bind, Except.bind, hflags, hanchor, htarget]

end Reading

/-! ## The file patch -/

theorem ActionDraft.given_of_search? {a : ActionDraft} {target : Text} {o : OptionsDraft}
    (h : a.search? = some (target, o)) (key : OptionKey) : a.given key = o.given key := by
  cases a <;> cases h <;> rfl

theorem actionOf_collected {defaults : MatchDefaults} {layout : Layout} {w : Wording}
    {f : FileDraft} (h : f.Valid defaults layout w) :
    actionOf defaults (f.collected w) f.action.kind = .ok (f.action.action defaults) := by
  have htarget := collected_block w f .target (by decide)
  have hreplacement := collected_block w f .replacement (by decide)
  have hcontent := collected_block w f .content (by decide)
  have hanchor := collected_block w f .anchor (by decide)
  have hdestination := collected_block w f .destination (by decide)
  have hoptions : ∀ target o, f.action.search? = some (target, o) →
      matchOptions defaults (f.collected w).path target (f.collected w).options
        (o.anchor.map AnchorDraft.text) = .ok (o.options defaults) := by
    intro target o hsearch
    refine matchOptions_given f.path (fun key => ?_) (h.options target o hsearch)
    rw [collected_options, ActionDraft.given_of_search? hsearch]
  unfold actionOf
  simp only [htarget, hreplacement, hcontent, hanchor, hdestination]
  cases haction : f.action with
  | replace find replacement o | insertBefore find replacement o | insertAfter find replacement o =>
      rw [haction] at hoptions
      simp only [ActionDraft.kind, ActionDraft.block, ActionDraft.search?, Option.map_some,
        Option.bind_some, hoptions find o rfl, bind, Except.bind]
      rfl
  | delete find o =>
      rw [haction] at hoptions
      simp only [ActionDraft.kind, ActionDraft.block, ActionDraft.search?, Option.map_some,
        Option.bind_some, hoptions find o rfl, bind, Except.bind]
      rfl
  | createFile | replaceFile | deleteFile => rfl
  | moveFile destination overwrite =>
      have htrim := h.destination destination (by rw [haction]; rfl)
      have hoverwrite : (f.collected w).options "OVERWRITE".toList = overwrite.map flagText :=
        (collected_options w f .overwrite).trans (by rw [haction]; rfl)
      simp only [ActionDraft.kind, ActionDraft.block, bind, Except.bind, htrim, hoverwrite,
        flag_flagText]
      rfl

/-- The section that is collected from a draft is built into the file patch that is meant. -/
theorem build_collected {defaults : MatchDefaults} {layout : Layout} {w : Wording} {f : FileDraft}
    (h : f.Valid defaults layout w) : (f.collected w).build defaults = .ok (f.patch defaults) := by
  have hkind : actionOfKeyword? (actionKeyword f.action.kind.name.toList) = some f.action.kind := by
    cases f.action.kind <;> decide
  have haction := actionOf_collected h
  have hwritten : (f.collected w).action = some f.action.kind.name.toList := rfl
  unfold Section.build
  simp only [hwritten, hkind, haction]
  rfl

end Emend.Document
