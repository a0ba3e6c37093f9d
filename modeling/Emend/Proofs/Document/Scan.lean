import Emend.Proofs.Document.Meaning
import Emend.Proofs.Document.Relocation
import Emend.Proofs.Text.DocumentLines
/-!
# Reading what was written

Each part of what is written for a draft leads from one state of the reading to another
(`Reads`): a line of the preamble puts a field into the metadata, a line or a block of a file
section puts its text into the section, and the header of a section closes the one before.
The text of a block is passed over as it is, whatever its lines look like.

Parts that follow each other lead from the first state to the last (`Reads.trans`), so a
file section becomes the section that is collected from its draft (`Reads.fileDraft`).
-/

namespace Emend.Document

/-! ## Lines of parts -/

/-- The lines that a text and a line feed are read as. -/
def linesOf (t : Text) : List Text := (Text.lines t).map Text.dropReturn

theorem documentLines_flatMap (parts : List Text) :
    Text.documentLines (parts.flatMap (· ++ ['\n'])) = parts.flatMap linesOf := by
  induction parts with
  | nil => rfl
  | cons part parts ih =>
      rw [List.flatMap_cons, List.flatMap_cons, List.append_assoc, List.singleton_append,
        Text.documentLines_cut, ih]
      rfl

section Reads

variable (defaults : MatchDefaults)

/-- The parts lead from one state to another, whatever the numbers of their lines. -/
def Reads (state : State) (parts : List Text) (next : State) : Prop :=
  ∀ number, State.run defaults state number (parts.flatMap linesOf) = next

variable {defaults}

namespace Reads

variable {state next last : State} {parts rest : List Text}

theorem nil : Reads defaults state [] state := fun _ => rfl

theorem trans (h : Reads defaults state parts next) (hrest : Reads defaults next rest last) :
    Reads defaults state (parts ++ rest) last := by
  intro number
  rw [List.flatMap_append, State.run_append, h, hrest]

theorem line {line : Text} (hline : '\n' ∉ line)
    (hstep : ∀ number raw, Line.ofText raw = Line.ofText line →
      State.step defaults state number raw = next) : Reads defaults state [line] next := by
  intro number
  have hlines : [line].flatMap linesOf = [Text.dropReturn line] := by
    simp [linesOf, Text.lines, Text.splitOn_of_not_mem hline]
  rw [hlines, State.run, State.run, hstep _ _ (Line.ofText_congr (Text.trim_dropReturn line))]

end Reads

end Reads

/-! ## Forms of parts -/

theorem trim_space (t : Text) : Text.trim (' ' :: t) = Text.trim t := Text.trim_cons (by decide) t

theorem ofText_field (layout : Layout) (key : FieldKey) (value : Text) :
    Line.ofText (layout.field key value) = .field key.label.toList (Text.trim value) := by
  rw [← trim_space value]
  cases layout with
  | markdown =>
      have hbold : Line.ofText (Layout.markdown.field key value) = _ :=
        Line.ofText_bold (by cases key <;> decide) (by cases key <;> decide) (' ' :: value)
      have hkey : normalizeKey (spoken key.label.toList) = key.label.toList := by
        cases key <;> decide
      rwa [hkey] at hbold
  | bracket | sign =>
      exact Line.ofText_capital (by cases key <;> decide) (by cases key <;> decide) (' ' :: value)

theorem not_mem_field {layout : Layout} {key : FieldKey} {value : Text} (h : '\n' ∉ value) :
    '\n' ∉ layout.field key value := by
  have hspoken : '\n' ∉ spoken key.label.toList := by cases key <;> decide
  have hlabel : '\n' ∉ key.label.toList := by cases key <;> decide
  cases layout <;> simp [Layout.field, h, hspoken, hlabel]

theorem ofText_header (layout : Layout) (path : Text) :
    Line.ofText (layout.header path) = .fileHeader (Text.trim path) := by
  rw [← trim_space path]
  cases layout with
  | markdown => exact Line.ofText_fileHeader _
  | bracket | sign =>
      have hclosed := Line.ofText_fileHeader_closed (' ' :: path ++ [' '])
      rwa [Text.trim_concat (by decide)] at hclosed

theorem not_mem_header {layout : Layout} {path : Text} (h : '\n' ∉ path) :
    '\n' ∉ layout.header path := by
  have hspace : '\n' ∉ ' ' :: path := List.not_mem_cons_of_ne_of_not_mem (by decide) h
  cases layout with
  | markdown => exact List.not_mem_append (by decide) hspace
  | bracket | sign =>
      have hspaces : '\n' ∉ ' ' :: path ++ [' '] := List.not_mem_append hspace (by decide)
      exact List.not_mem_append (List.not_mem_append (by decide) hspaces) (by decide)

namespace OptionKey

/-- The key of an option is one in capitals. -/
theorem capital (key : OptionKey) :
    normalizeKey key.name.toList = key.name.toList ∧
      key.name.toList.head?.any Char.isUpper ∧ key.name.toList.all isCapitalChar := by
  revert key
  exact forall_of_all (by decide)

/-- The key of an option is no other key and no label. -/
theorem other (key : OptionKey) :
    key.name.toList ∉ ["ACTION".toList, "DESCRIPTION".toList, "OPTIONS".toList] ∧
      Role.ofLabel? key.name.toList = none := by
  revert key
  exact forall_of_all (by decide)

theorem not_mem_name (key : OptionKey) : '\n' ∉ key.name.toList := by
  intro hmem
  exact absurd (List.all_eq_true.1 key.capital.2.2 _ hmem) (by decide)

end OptionKey

theorem not_mem_option {layout : Layout} {key : OptionKey} {value : Text} (h : '\n' ∉ value) :
    '\n' ∉ layout.option key value := by
  have hname := key.not_mem_name
  have hspace : '\n' ∉ ' ' :: value := List.not_mem_cons_of_ne_of_not_mem (by decide) h
  have hline : '\n' ∉ key.name.toList ++ ":".toList ++ ' ' :: value :=
    List.not_mem_append (List.not_mem_append hname (by decide)) hspace
  cases layout with
  | markdown =>
      have hmark : '\n' ∉ "- ".toList := by decide
      have hlead := List.not_mem_append (List.not_mem_append hmark hname)
        (show '\n' ∉ ":".toList by decide)
      exact List.not_mem_append hlead hspace
  | bracket | sign => exact hline

/-! ## Parts of a file section -/

/-- The reading of a section after what `p` has of the patch. -/
def within (p : Progress) (s : Section) : State := .reading { p with current := some s }

namespace Section

/-- The text of an option is the same whether it is a field or an item of a list. -/
theorem addField_option (key : OptionKey) {value : Text} (hvalue : stripTicks value = value)
    (s : Section) : s.addField key.name.toList value = s.addOption key.name.toList value := by
  obtain ⟨hother, hlabel⟩ := key.other
  simp only [List.mem_cons, List.not_mem_nil, or_false, not_or] at hother
  unfold addField
  rw [if_neg hother.1, if_neg hother.2.1, if_neg hother.2.2, hlabel, hvalue]

end Section

namespace Reads

variable {defaults : MatchDefaults} {p : Progress} {s : Section}

theorem field {line key value : Text} (hline : '\n' ∉ line)
    (h : Line.ofText line = .field key value) :
    Reads defaults (within p s) [line] (within p (s.addField key value)) := by
  refine Reads.line hline fun number raw hraw => ?_
  simp only [within, State.step, hraw, h]
  rfl

theorem option (layout : Layout) (key : OptionKey) {value : Text}
    (hvalue : value.all Text.isValueChar) :
    Reads defaults (within p s) [layout.option key value]
      (within p (s.addOption key.name.toList value)) := by
  have htrim := Text.trim_of_solid (Text.solid_of_isValueChar hvalue)
  have hticks : stripTicks value = value := by
    refine stripTicks_eq_self htrim ?_
    rintro ⟨inside, rfl⟩
    cases hvalue
  have hfeed : '\n' ∉ value := (Text.solid_of_isValueChar hvalue).not_mem (by decide)
  obtain ⟨hnormal, hupper, hcapital⟩ := key.capital
  refine Reads.line (not_mem_option hfeed) fun number raw hraw => ?_
  cases layout with
  | markdown =>
      have hitem := Line.ofText_option (Line.isAlpha_of_capital hupper)
        (Line.isOptionChar_of_capital hcapital) (' ' :: value)
      rw [hnormal, stripTicks_congr (trim_space value), hticks] at hitem
      simp only [within, State.step, hraw, Layout.option, hitem]
      rfl
  | bracket | sign =>
      have hfield := Line.ofText_capital hupper hcapital (' ' :: value)
      rw [trim_space, htrim] at hfield
      rw [← Section.addField_option key hticks]
      simp only [within, State.step, hraw, Layout.option, hfield]
      rfl

/-- The options put their texts under their keys, in order. -/
theorem options (layout : Layout) {texts : List (OptionKey × Text)}
    (hvalues : ∀ t ∈ texts, t.2.all Text.isValueChar) :
    Reads defaults (within p s) (layout.options texts)
      (within p { s with
        options := Entries.putAll (texts.map fun t => (t.1.name.toList, t.2)) s.options }) := by
  have hitems : Reads defaults (within p s) (texts.map fun t => layout.option t.1 t.2)
      (within p { s with
        options := Entries.putAll (texts.map fun t => (t.1.name.toList, t.2)) s.options }) := by
    induction texts generalizing s with
    | nil => exact Reads.nil
    | cons t texts ih =>
        exact (Reads.option layout t.1 (hvalues t List.mem_cons_self)).trans
          (ih fun u hu => hvalues u (List.mem_cons_of_mem _ hu))
  cases layout with
  | bracket | sign => exact hitems
  | markdown =>
      unfold Layout.options
      simp only
      split
      · next hempty =>
        rw [List.isEmpty_iff.1 hempty]
        exact Reads.nil
      · -- The title is a field that says nothing.
        have htitle : Line.ofText "**Options:**".toList = .field "OPTIONS".toList [] := by decide
        exact (Reads.field (by decide) htitle).trans hitems

/-! ## Blocks -/

/-- Lines that do not close a block are its text. -/
theorem run_inBlock {fence : Fence} {lines : List Text}
    (hlines : ∀ line ∈ lines, fence.closes (Text.trim line) = false) (opened number : Nat)
    (body : List Text) :
    State.run defaults (.inBlock p fence opened body) number lines =
      .inBlock p fence opened (lines.reverse ++ body) := by
  induction lines generalizing number body with
  | nil => rfl
  | cons line lines ih =>
      have hstep : State.step defaults (.inBlock p fence opened body) number line =
          .inBlock p fence opened (line :: body) := by
        simp only [State.step, hlines line List.mem_cons_self]
        rfl
      rw [State.run, hstep, ih fun l hl => hlines l (List.mem_cons_of_mem _ hl),
        List.reverse_cons, List.append_assoc]
      rfl

theorem linesOf_body {fence : Fence} {body : Text} (h : Body fence body) :
    linesOf body = Text.lines body := by
  unfold linesOf
  rw [List.map_congr_left (g := id), List.map_id]
  intro line hline
  exact Text.dropReturn_of_not_mem fun hc => h.noReturn (Text.mem_of_mem_splitOn hline hc)

theorem blockText_lines {fence : Fence} {body : Text} (h : Body fence body) :
    blockText (Text.lines body).reverse = body := by
  unfold blockText
  rw [List.reverse_reverse, Text.lines, Text.join_splitOn]
  refine Text.dropEndWhile_eq_self fun c hc => ?_
  have hreturn : c ≠ '\r' := by
    rintro rfl
    exact h.noReturn (List.mem_of_getLast? hc)
  have hfeed : c ≠ '\n' := by
    rintro rfl
    exact h.noFeed hc
  simp [hreturn, hfeed]

/-- A block is collected with its text as it is, whatever the lines of the text look like. -/
theorem fenced {fence : Fence} {first body last : Text} (hfirst : '\n' ∉ first)
    (hopens : Line.ofText first = .fence fence) (hbody : Body fence body) (hlast : '\n' ∉ last)
    (hcloses : fence.closes (Text.trim last)) :
    Reads defaults (within p s) [first, body, last] (within p (s.addBlock fence body)) := by
  intro number
  have hlines : [first, body, last].flatMap linesOf =
      Text.dropReturn first :: (Text.lines body ++ [Text.dropReturn last]) := by
    simp only [List.flatMap_cons, List.flatMap_nil, linesOf_body hbody]
    simp [linesOf, Text.lines, Text.splitOn_of_not_mem hfirst, Text.splitOn_of_not_mem hlast]
  have hstep : State.step defaults (within p s) number (Text.dropReturn first) =
      .inBlock { p with current := some s } fence number [] := by
    have hraw := (Line.ofText_congr (Text.trim_dropReturn first)).trans hopens
    simp only [within, State.step, hraw]
    rfl
  rw [hlines, State.run, hstep, State.run_append, run_inBlock hbody.unclosed, List.append_nil,
    State.run, State.run]
  simp only [State.step, Text.trim_dropReturn, hcloses, blockText_lines hbody]
  rfl

/-- The label of a role is one line, and no other key. -/
theorem label_text (role : Role) : ∀ label ∈ role.labels,
    Role.ofLabel? label.toList = some role ∧ '\n' ∉ label.toList ∧ '\n' ∉ spoken label.toList ∧
      label.toList ∉
        ["ACTION".toList, "DESCRIPTION".toList, "OPTIONS".toList, "OVERWRITE".toList] := by
  cases role <;> decide

/-- The label of a role opens and closes a block in each layout. -/
theorem label_lines (role : Role) : ∀ label ∈ role.labels,
    Line.ofText ("**".toList ++ spoken label.toList ++ ":**".toList) =
        .field label.toList [] ∧
      Line.ofText ("<<< ".toList ++ label.toList) = .fence (.bracket label.toList) ∧
      (Fence.bracket label.toList).closes (Text.trim (label.toList ++ " >>>".toList)) ∧
      Line.ofText ("@@ ".toList ++ label.toList) = .fence (.sign label.toList) := by
  cases role <;> decide

/-- A block puts its text under the role of its label. -/
theorem block (layout : Layout) {role : Role} {label : String} (hlabel : label ∈ role.labels)
    {body : Text} (hbody : Body (layout.fence label) body) (hpending : s.pending = none) :
    Reads defaults (within p s) (layout.block label body) (within p (s.addLabelled role body)) := by
  obtain ⟨hrole, hline, hspoken, hother⟩ := label_text role label hlabel
  obtain ⟨hbold, hbracket, hcloses, hsign⟩ := label_lines role label hlabel
  simp only [List.mem_cons, List.not_mem_nil, or_false, not_or] at hother
  obtain ⟨haction, hdescription, hoptions, hoverwrite⟩ := hother
  have hdone : ({ s with pending := none } : Section) = s := by rw [← hpending]
  cases layout with
  | markdown =>
      have hwaits : s.addField label.toList [] = { s with pending := some role } := by
        unfold Section.addField
        rw [if_neg haction, if_neg hdescription, if_neg hoptions, hrole]
        rfl
      have hplaced : Section.addBlock (.backtick none) body { s with pending := some role } =
          s.addLabelled role body :=
        congrArg (Section.addLabelled role body) hdone
      have hmark : '\n' ∉ "**".toList := by decide
      have hlead := List.not_mem_append (List.not_mem_append hmark hspoken)
        (show '\n' ∉ ":**".toList by decide)
      have htitle : Reads defaults (within p s) _ (within p (s.addField label.toList [])) :=
        Reads.field hlead hbold
      have hfirst : Line.ofText "\x60\x60\x60".toList = .fence (.backtick none) := by decide
      have hblock : Reads defaults (within p { s with pending := some role }) _ _ :=
        Reads.fenced (by decide) hfirst hbody
          (show '\n' ∉ "\x60\x60\x60".toList by decide) (by decide)
      rw [hplaced] at hblock
      rw [hwaits] at htitle
      exact htitle.trans hblock
  | bracket =>
      have hplaced : s.addBlock (.bracket label.toList) body = s.addLabelled role body := by
        simp only [Section.addBlock, if_neg hoverwrite, hrole, hdone]
        rfl
      rw [← hplaced]
      exact Reads.fenced (List.not_mem_append (by decide) hline) hbracket hbody
        (List.not_mem_append hline (by decide)) hcloses
  | sign =>
      have hplaced : s.addBlock (.sign label.toList) body = s.addLabelled role body := by
        simp only [Section.addBlock, if_neg hoverwrite, hrole, hdone]
        rfl
      rw [← hplaced]
      exact Reads.fenced (List.not_mem_append (by decide) hline) hsign hbody (by decide) rfl

/-- The blocks put their texts under their roles, in order. -/
theorem blocks (layout : Layout) (w : Wording) {texts : List (Role × Text)}
    (hbodies : ∀ t ∈ texts, Body (layout.fence (w.label t.1)) t.2) (hpending : s.pending = none) :
    Reads defaults (within p s)
      (texts.flatMap fun (role, body) => layout.block (w.label role) body)
      (within p { s with
        labelled := Entries.putAll (texts.map fun t => (w.place t.1, t.2)) s.labelled }) := by
  induction texts generalizing s with
  | nil => exact Reads.nil
  | cons t texts ih =>
      have hbody := hbodies t List.mem_cons_self
      have hfirst : Reads defaults (within p s) _ _ :=
        Reads.block layout (w.label_mem t.1) hbody hpending
      exact hfirst.trans (ih (s := s.addLabelled (w.place t.1) t.2)
        (fun u hu => hbodies u (List.mem_cons_of_mem _ hu)) hpending)

end Reads

/-! ## File sections -/

theorem ofHeader_pathlike {path : Text} (h : Pathlike path) (number : Nat) :
    Section.ofHeader path number = .ok { path } := by
  have hbreak : Text.breakOn? ['-', '>'] path = none := by
    cases hbreak : Text.breakOn? ['-', '>'] path with
    | none => rfl
    | some cut => exact absurd ⟨cut.1, cut.2, (Text.breakOn?_eq_some hbreak).symm⟩ h.arrow
  unfold Section.ofHeader
  simp only [hbreak, stripTicks_eq_self h.trimmed h.ticks]
  rw [if_neg (by simpa using h.nonempty)]
  rfl

theorem all_of_optionsGiven {defaults : MatchDefaults} {target : Text} {o : OptionsDraft}
    (h : o.Valid defaults target) {key : OptionKey} {value : Text}
    (hvalue : o.given key = some value) : value.all Text.isValueChar := by
  have hmode : ∀ mode : MatchMode, mode.name.toList.all Text.isValueChar := by
    intro mode
    cases mode <;> decide
  have hscope : ∀ scope : AnchorScope, scope.name.toList.all Text.isValueChar := by
    intro scope
    cases scope <;> decide
  cases key with
  | mode | anchorMode =>
      obtain ⟨mode, -, rfl⟩ := Option.map_eq_some_iff.1 hvalue
      exact hmode mode
  | threshold =>
      obtain ⟨x, hx⟩ := h.threshold value hvalue
      exact all_of_threshold? hx
  | windowSize =>
      obtain ⟨n, -, rfl⟩ := Option.map_eq_some_iff.1 hvalue
      exact Text.all_ofNat n
  | flag f =>
      obtain ⟨b, -, rfl⟩ := Option.map_eq_some_iff.1 hvalue
      exact all_flagText b
  | anchorScope =>
      obtain ⟨scope, -, rfl⟩ := Option.map_eq_some_iff.1 hvalue
      exact hscope scope
  | anchorDepth =>
      obtain ⟨n, -, rfl⟩ := Option.map_eq_some_iff.1 hvalue
      exact all_depthText n
  | overwrite => cases hvalue

theorem ActionDraft.given_cases {a : ActionDraft} {key : OptionKey} {value : Text}
    (h : a.given key = some value) :
    (∃ target o, a.search? = some (target, o) ∧ o.given key = some value) ∨
      ∃ b, value = flagText b := by
  cases a with
  | replace | insertBefore | insertAfter | delete => exact .inl ⟨_, _, rfl, h⟩
  | createFile | replaceFile | deleteFile => cases h
  | moveFile destination overwrite =>
      by_cases hkey : key = .overwrite
      · rw [given, if_pos hkey] at h
        obtain ⟨b, -, hb⟩ := Option.map_eq_some_iff.1 h
        exact .inr ⟨b, hb.symm⟩
      · rw [given, if_neg hkey] at h
        cases h

/-- What is written for an option has neither blanks nor backticks. -/
theorem all_of_given {defaults : MatchDefaults} {layout : Layout} {w : Wording} {f : FileDraft}
    (h : f.Valid defaults layout w) {key : OptionKey} {value : Text}
    (hvalue : f.action.given key = some value) : value.all Text.isValueChar := by
  rcases ActionDraft.given_cases hvalue with ⟨target, o, hsearch, hgiven⟩ | ⟨b, rfl⟩
  · exact all_of_optionsGiven (h.options target o hsearch) hgiven
  · exact all_flagText b

namespace Reads

variable {defaults : MatchDefaults} {layout : Layout} {p q : Progress} {s : Section}

/-- The header of a section closes the section before. -/
theorem header {path : Text} (hpath : Pathlike path) (hclose : p.closeSection defaults = .ok q) :
    Reads defaults (.reading p) [layout.header path] (within q { path }) := by
  refine Reads.line (not_mem_header hpath.line) fun number raw hraw => ?_
  have hbegin : p.beginSection defaults path number =
      .ok { q with current := some { path } } := by
    unfold Progress.beginSection
    simp only [hclose, bind, Except.bind, ofHeader_pathlike hpath]
    rfl
  simp only [State.step, hraw, ofText_header, hpath.trimmed, State.stepReading, hbegin]
  rfl

theorem action (kind : ActionKind) :
    Reads defaults (within p s) [layout.field .action kind.name.toList]
      (within p { s with action := some kind.name.toList }) := by
  obtain ⟨hticks, hline⟩ : stripTicks (Text.trim kind.name.toList) = kind.name.toList ∧
      '\n' ∉ kind.name.toList := by
    cases kind <;> decide
  have hadd : s.addField FieldKey.action.label.toList (Text.trim kind.name.toList) =
      { s with action := some kind.name.toList } :=
    congrArg (fun t => { s with action := some t }) hticks
  rw [← hadd]
  exact Reads.field (not_mem_field hline) (ofText_field layout .action _)

theorem description {text : Text} (h : Inline text) :
    Reads defaults (within p s) [layout.field .description text]
      (within p { s with description := text }) := by
  have hadd : s.addField FieldKey.description.label.toList (Text.trim text) =
      { s with description := text } :=
    congrArg (fun t => { s with description := t }) h.trimmed
  rw [← hadd]
  exact Reads.field (not_mem_field h.line) (ofText_field layout .description _)

variable {w : Wording}

/-- A file section becomes what is collected from its draft, after the sections before. -/
theorem fileDraft {f : FileDraft} (h : f.Valid defaults layout w)
    (hclose : p.closeSection defaults = .ok q) :
    Reads defaults (.reading p) (f.render layout w) (within q (f.collected w)) := by
  have htitle : Reads defaults (.reading p)
      [layout.header f.path, layout.field .action f.action.kind.name.toList,
        layout.field .description f.description]
      (within q { path := f.path, action := some f.action.kind.name.toList,
                  description := f.description }) :=
    ((Reads.header h.path hclose).trans (Reads.action _)).trans (Reads.description h.description)
  have hoptions : ∀ s, Reads defaults (within q s) (layout.options f.action.options) _ :=
    fun s => Reads.options layout fun t ht => all_of_given h (mem_textsOf ht)
  have hbodies : ∀ t ∈ f.action.blocks, Body (layout.fence (w.label t.1)) t.2 :=
    fun t ht => h.body t.1 t.2 (mem_textsOf ht)
  have hblocks : ∀ s : Section, s.pending = none → Reads defaults (within q s) _ _ :=
    fun s hpending => Reads.blocks layout w hbodies hpending
  exact (htitle.trans (hoptions _)).trans (hblocks _ rfl)

/-- File sections become their file patches, in order. -/
theorem files {m : Metadata} (files : List FileDraft) (earlier : List FilePatch)
    (h : ∀ f ∈ files, f.Valid defaults layout w)
    (hclose : p.closeSection defaults = .ok { metadata := m, files := earlier }) :
    ∃ last, Reads defaults (.reading p) (files.flatMap (FileDraft.render layout w))
        (.reading last) ∧
      last.closeSection defaults =
        .ok { metadata := m, files := earlier ++ files.map (·.patch defaults) } := by
  -- A section is built when it is closed, so the induction is on the patches that closing the
  -- section at hand would give.
  induction files generalizing p earlier with
  | nil => exact ⟨p, Reads.nil, by rw [hclose]; simp⟩
  | cons f files ih =>
      have hfirst := Reads.fileDraft (h f List.mem_cons_self) hclose
      have hbuilt : Progress.closeSection defaults
          { metadata := m, files := earlier, current := some (f.collected w) } =
            .ok { metadata := m, files := earlier ++ [f.patch defaults] } := by
        simp only [Progress.closeSection, build_collected (h f List.mem_cons_self), bind,
          Except.bind]
        rfl
      obtain ⟨last, hlast, hfiles⟩ := ih (earlier ++ [f.patch defaults])
        (fun g hg => h g (List.mem_cons_of_mem _ hg)) hbuilt
      refine ⟨last, hfirst.trans hlast, ?_⟩
      rw [hfiles, List.append_assoc]
      rfl

/-! ## The preamble -/

/-- A line of the preamble puts its text into the metadata. -/
theorem heading {m : Metadata} (layout : Layout) (key : FieldKey) {value : Text}
    (h : Inline value) :
    Reads defaults (.heading m) [layout.field key value]
      (.heading (describe key.label.toList value m)) := by
  refine Reads.line (not_mem_field h.line) fun number raw hraw => ?_
  have hfield := ofText_field layout key value
  rw [h.trimmed] at hfield
  simp only [State.step, hraw, hfield]

theorem describe_eq {key : FieldKey} {value : Text} (h : value ≠ []) (m : Metadata) :
    describe key.label.toList value m =
      match key with
      | .name => { m with name := value }
      | .description => { m with description := value }
      | .author => { m with author := value }
      | .version => { m with version := value }
      | .action => m := by
  have hempty : value.isEmpty = false := by simpa using h
  cases key <;> simp only [describe, hempty] <;> rfl

theorem start {name : Text} (hne : name ≠ []) (hname : Inline name) :
    Reads defaults .seeking (layout.start name) (.heading { name }) := by
  have hcapitals : Reads defaults .seeking ["=== PATCH START ===".toList] (.heading {}) := by
    refine Reads.line (by decide) fun number raw hraw => ?_
    have hline : Line.ofText "=== PATCH START ===".toList = .patchStart [] := by decide
    simp only [State.step, hraw, hline]
  have hfield : ∀ layout : Layout,
      Reads defaults (.heading {}) [layout.field .name name] (.heading { name }) := by
    intro layout
    have hset : describe FieldKey.name.label.toList name {} = { name } := describe_eq hne {}
    rw [← hset]
    exact Reads.heading layout .name hname
  cases layout with
  | markdown =>
      have hline := Line.ofText_patchStart (' ' :: name)
      rw [trim_space, hname.trimmed] at hline
      refine Reads.line ?_ fun number raw hraw => ?_
      · exact List.not_mem_append (by decide)
          (List.not_mem_cons_of_ne_of_not_mem (by decide) hname.line)
      · obtain ⟨c, rest, rfl⟩ := List.exists_cons_of_ne_nil hne
        simp only [State.step, hraw, hline]
  | bracket | sign => exact hcapitals.trans (hfield _)

/-- The lines before the file sections become the metadata. -/
theorem preamble {m : Metadata} (hname : m.name ≠ [] ∧ Inline m.name)
    (hdescription : Inline m.description) (hauthor : m.author ≠ [] ∧ Inline m.author)
    (hversion : m.version ≠ [] ∧ Inline m.version) :
    Reads defaults .seeking (layout.preamble m) (.reading { metadata := m }) := by
  have hend : Reads defaults (.heading m) ["---".toList] (.reading { metadata := m }) := by
    refine Reads.line (by decide) fun number raw hraw => ?_
    have hline : Line.ofText "---".toList = .separator := by decide
    simp only [State.step, hraw, hline]
  have hfields : Reads defaults (.heading { name := m.name })
      ([layout.field .description m.description] ++ [layout.field .author m.author] ++
        [layout.field .version m.version]) (.heading _) :=
    ((Reads.heading layout .description hdescription).trans
      (Reads.heading layout .author hauthor.2)).trans (Reads.heading layout .version hversion.2)
  rw [describe_eq hauthor.1, describe_eq hversion.1] at hfields
  exact (Reads.start hname.1 hname.2).trans (hfields.trans hend)

end Reads

end Emend.Document
