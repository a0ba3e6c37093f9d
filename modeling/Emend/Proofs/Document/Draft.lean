import Emend.Document.Build
import Emend.Proofs.Document.Lines
/-!
# Drafts of documents

A draft is a document before it is written down: its metadata and its file patches, where
of the options only those are given that are to be written (`Draft`).  The document that a
draft stands for has the defaults for the others (`Draft.document`).

A draft is written in one of three layouts (`Draft.render`).

* In markdown the fields are in bold letters, the options are items of a list, and a block
  stands between backticks under its label.
* In the others the fields and the options are in capitals, and a block stands between
  brackets or between signs that carry its label.

A role has several labels, and a `Wording` says which of them is used.  What a draft may
hold so that it can be written is `Draft.Valid`.
-/

namespace Emend.Document

/-! ## Options -/

/-- The options that are yes or no. -/
inductive Flag where
  | ignoreComments
  | ignoreEmptyLines
  | caseSensitive
  | functionName
  | className
  | parameterTypes
  | parameterNames
  | returnType
  | modifiers
  deriving DecidableEq, Repr

/-- The key of a flag. -/
def Flag.name : Flag → String
  | ignoreComments => "IGNORE_COMMENTS"
  | ignoreEmptyLines => "IGNORE_EMPTY_LINES"
  | caseSensitive => "CASE_SENSITIVE"
  | functionName => "MATCH_FUNCTION_NAME"
  | className => "MATCH_CLASS_NAME"
  | parameterTypes => "MATCH_PARAMETER_TYPES"
  | parameterNames => "MATCH_PARAMETER_NAMES"
  | returnType => "MATCH_RETURN_TYPE"
  | modifiers => "MATCH_MODIFIERS"

/-- The options of a section. -/
inductive OptionKey where
  | mode
  | threshold
  | windowSize
  | flag (flag : Flag)
  | anchorMode
  /-- How far the region of the anchor reaches. -/
  | anchorScope
  | anchorDepth
  /-- Whether a move may take the place of another file. -/
  | overwrite
  deriving DecidableEq, Repr

namespace OptionKey

/-- The key of an option in a document. -/
def name : OptionKey → String
  | mode => "MATCH_MODE"
  | threshold => "FUZZY_THRESHOLD"
  | windowSize => "TOKEN_WINDOW_SIZE"
  | flag f => f.name
  | anchorMode => "ANCHOR_MATCH_MODE"
  | anchorScope => "ANCHOR_SCOPE"
  | anchorDepth => "ANCHOR_SEARCH_DEPTH"
  | overwrite => "OVERWRITE"

/-- Every option. -/
def all : List OptionKey :=
  [mode, threshold, windowSize, flag .ignoreComments, flag .ignoreEmptyLines,
    flag .caseSensitive, flag .functionName, flag .className, flag .parameterTypes,
    flag .parameterNames, flag .returnType, flag .modifiers, anchorMode, anchorScope,
    anchorDepth, overwrite]

theorem mem_all (key : OptionKey) : key ∈ all := by
  rcases key with _ | _ | _ | f | _ | _ | _ | _
  case flag => cases f <;> decide
  all_goals decide

theorem forall_of_all {p : OptionKey → Prop} (h : ∀ key ∈ all, p key) (key : OptionKey) : p key :=
  h key (mem_all key)

end OptionKey

/-- A yes or a no as it is written. -/
def flagText (value : Bool) : Text := if value then "true".toList else "false".toList

/-- A level of braces, or minus one, as it is written. -/
def depthText (depth : Int) : Text := if depth < 0 then "-1".toList else Text.ofNat depth.toNat

/-- An anchor, with the options that are given for it. -/
structure AnchorDraft where
  text : Text
  mode : Option MatchMode := none
  scope : Option AnchorScope := none
  /-- The level of braces whose end ends the region. -/
  depth : Option Int := none

/-- The options that are given for a match. -/
structure OptionsDraft where
  mode : Option MatchMode := none
  /-- The score that an inexact match has to reach, as it is written. -/
  threshold : Option Text := none
  windowSize : Option Nat := none
  flags : Flag → Option Bool := fun _ => none
  anchor : Option AnchorDraft := none

namespace OptionsDraft

/-- What is written for an option that is given. -/
def given (o : OptionsDraft) : OptionKey → Option Text
  | .mode => o.mode.map (·.name.toList)
  | .threshold => o.threshold
  | .windowSize => o.windowSize.map Text.ofNat
  | .flag f => (o.flags f).map flagText
  | .anchorMode => (o.anchor.bind (·.mode)).map (·.name.toList)
  | .anchorScope => (o.anchor.bind (·.scope)).map (·.name.toList)
  | .anchorDepth => (o.anchor.bind (·.depth)).map depthText
  | .overwrite => none

/-- The options of the match: those that are given, and the defaults for the others. -/
def options (defaults : MatchDefaults) (o : OptionsDraft) : MatchOptions :=
  let base := defaults.options
  { mode := o.mode.getD base.mode
    threshold := (o.threshold.bind threshold?).getD base.threshold
    folding :=
      { ignoreComments := (o.flags .ignoreComments).getD base.folding.ignoreComments
        ignoreEmptyLines := (o.flags .ignoreEmptyLines).getD base.folding.ignoreEmptyLines
        caseSensitive := (o.flags .caseSensitive).getD base.folding.caseSensitive }
    checks :=
      { functionName := (o.flags .functionName).getD base.checks.functionName
        className := (o.flags .className).getD base.checks.className
        parameterTypes := (o.flags .parameterTypes).getD base.checks.parameterTypes
        parameterNames := (o.flags .parameterNames).getD base.checks.parameterNames
        returnType := (o.flags .returnType).getD base.checks.returnType
        modifiers := (o.flags .modifiers).getD base.checks.modifiers }
    windowSize := o.windowSize.getD base.windowSize
    anchor := o.anchor.map fun a =>
      { text := a.text
        mode := a.mode.getD .normalized
        scope := a.scope.getD .auto
        depth := a.depth.getD defaults.anchorDepth } }

end OptionsDraft

/-! ## File patches -/

/-- What is to be done with a file. -/
inductive ActionDraft where
  | replace (find replacement : Text) (options : OptionsDraft)
  | insertBefore (marker content : Text) (options : OptionsDraft)
  | insertAfter (marker content : Text) (options : OptionsDraft)
  | delete (find : Text) (options : OptionsDraft)
  | createFile (content : Text)
  | replaceFile (content : Text)
  | deleteFile
  | moveFile (destination : Text) (overwrite : Option Bool)

namespace ActionDraft

/-- The kind of an action. -/
def kind : ActionDraft → ActionKind
  | replace .. => .replace
  | insertBefore .. => .insertBefore
  | insertAfter .. => .insertAfter
  | delete .. => .delete
  | createFile _ => .createFile
  | replaceFile _ => .replaceFile
  | deleteFile => .deleteFile
  | moveFile .. => .moveFile

/-- The text that an action looks for, and the options of the match. -/
def search? : ActionDraft → Option (Text × OptionsDraft)
  | replace target _ o | insertBefore target _ o | insertAfter target _ o | delete target o =>
    some (target, o)
  | _ => none

/-- The blocks of an action. -/
def block (a : ActionDraft) : Role → Option Text
  | .target => a.search?.map Prod.fst
  | .replacement =>
    match a with
    | replace _ replacement _ => some replacement
    | _ => none
  | .content =>
    match a with
    | insertBefore _ content _ | insertAfter _ content _ | createFile content
    | replaceFile content => some content
    | _ => none
  | .anchor => a.search?.bind fun (_, o) => o.anchor.map AnchorDraft.text
  | .destination =>
    match a with
    | moveFile destination _ => some destination
    | _ => none
  | .outcome => none

/-- What is written for an option that is given. -/
def given (a : ActionDraft) (key : OptionKey) : Option Text :=
  match a with
  | moveFile _ overwrite => if key = .overwrite then overwrite.map flagText else none
  | a => a.search?.bind fun (_, o) => o.given key

/-- The action that is meant. -/
def action (defaults : MatchDefaults) : ActionDraft → Action
  | replace find replacement o => .replace find replacement (o.options defaults)
  | insertBefore marker content o => .insertBefore marker content (o.options defaults)
  | insertAfter marker content o => .insertAfter marker content (o.options defaults)
  | delete find o => .delete find (o.options defaults)
  | createFile content => .createFile content
  | replaceFile content => .replaceFile content
  | deleteFile => .deleteFile
  | moveFile destination overwrite => .moveFile destination (overwrite.getD false)

end ActionDraft

/-- A file and what is to be done with it. -/
structure FileDraft where
  path : Text
  description : Text := []
  action : ActionDraft

/-- The file patch that is meant. -/
def FileDraft.patch (defaults : MatchDefaults) (f : FileDraft) : FilePatch :=
  { path := f.path, description := f.description, action := f.action.action defaults }

/-- A document before it is written down. -/
structure Draft where
  metadata : Metadata
  files : List FileDraft

/-- The document that is meant. -/
def Draft.document (defaults : MatchDefaults) (d : Draft) : PatchDocument :=
  ⟨d.metadata, d.files.map (·.patch defaults)⟩

/-! ## Layouts -/

/-- How a draft is written. -/
inductive Layout where
  /-- As markdown. -/
  | markdown
  /-- In capitals, with blocks between brackets. -/
  | bracket
  /-- In capitals, with blocks between signs. -/
  | sign
  deriving DecidableEq, Repr

/-- The labels that are used for the blocks: one of those of the role, or `TO` for a
replacement or a destination. -/
structure Wording where
  /-- The label of a role. -/
  label : Role → String
  /-- It is a label of the role. -/
  labels : ∀ role, label role ∈ role.labels ∨
    label role = "TO" ∧ (role = .replacement ∨ role = .destination)

/-- A label as it is spoken: small letters after the first, and spaces. -/
def spoken : Text → Text
  | [] => []
  | c :: rest => c :: rest.map fun d => if d = '_' then ' ' else d.toLower

/-- The fields that are not options. -/
inductive FieldKey where
  | name
  | description
  | author
  | version
  | action
  deriving DecidableEq, Repr

/-- The key of a field in capitals. -/
def FieldKey.label : FieldKey → String
  | name => "NAME"
  | description => "DESCRIPTION"
  | author => "AUTHOR"
  | version => "VERSION"
  | action => "ACTION"

namespace Layout

/-- The line of a field. -/
def field (layout : Layout) (key : FieldKey) (value : Text) : Text :=
  match layout with
  | markdown => "**".toList ++ spoken key.label.toList ++ ":**".toList ++ ' ' :: value
  | bracket | sign => key.label.toList ++ ":".toList ++ ' ' :: value

/-- The line of an option. -/
def option (layout : Layout) (key : OptionKey) (value : Text) : Text :=
  match layout with
  | markdown => "- ".toList ++ key.name.toList ++ ":".toList ++ ' ' :: value
  | bracket | sign => key.name.toList ++ ":".toList ++ ' ' :: value

/-- The lines of the options: in markdown a list with a title. -/
def options (layout : Layout) (given : List (OptionKey × Text)) : List Text :=
  let items := given.map fun (key, value) => layout.option key value
  match layout with
  | markdown => if given.isEmpty then [] else "**Options:**".toList :: items
  | bracket | sign => items

/-- How a block with a label is delimited. -/
def fence (layout : Layout) (label : String) : Fence :=
  match layout with
  | markdown => .backtick none
  | bracket => .bracket label.toList
  | sign => .sign label.toList

/-- What opens a block, its text, and what closes it. -/
def block (layout : Layout) (label : String) (body : Text) : List Text :=
  match layout with
  | markdown =>
    ["**".toList ++ spoken label.toList ++ ":**".toList, "\x60\x60\x60".toList, body,
      "\x60\x60\x60".toList]
  | bracket => ["<<< ".toList ++ label.toList, body, label.toList ++ " >>>".toList]
  | sign => ["@@ ".toList ++ label.toList, body, "@@".toList]

/-- The header of a file section. -/
def header (layout : Layout) (path : Text) : Text :=
  match layout with
  | markdown => "#### File:".toList ++ ' ' :: path
  | bracket | sign => "--- FILE:".toList ++ (' ' :: path ++ [' ']) ++ "---".toList

/-- The start of a patch, with its name. -/
def start (layout : Layout) (name : Text) : List Text :=
  match layout with
  | markdown => ["### PATCH:".toList ++ ' ' :: name]
  | bracket | sign => ["=== PATCH START ===".toList, layout.field .name name]

/-- The lines before the file sections. -/
def preamble (layout : Layout) (m : Metadata) : List Text :=
  layout.start m.name ++ [layout.field .description m.description,
    layout.field .author m.author, layout.field .version m.version, "---".toList]

/-- The line after the file sections. -/
def ending (layout : Layout) : List Text :=
  match layout with
  | markdown => []
  | bracket | sign => ["=== PATCH END ===".toList]

end Layout

section Render

variable (layout : Layout) (w : Wording)

/-- Those of some keys that have a text, with their texts. -/
def textsOf {κ : Type} (keys : List κ) (text? : κ → Option Text) : List (κ × Text) :=
  keys.filterMap fun key => (text? key).map (Prod.mk key)

/-- The options of an action that are given, with their keys. -/
def ActionDraft.options (a : ActionDraft) : List (OptionKey × Text) := textsOf OptionKey.all a.given

/-- The blocks of an action, with their roles. -/
def ActionDraft.blocks (a : ActionDraft) : List (Role × Text) :=
  textsOf [.target, .replacement, .content, .anchor, .destination] a.block

/-- A file section as it is written. -/
def FileDraft.render (f : FileDraft) : List Text :=
  [layout.header f.path, layout.field .action f.action.kind.name.toList,
      layout.field .description f.description] ++
    layout.options f.action.options ++
    f.action.blocks.flatMap fun (role, body) => layout.block (w.label role) body

/-- The lines of a draft; the text of a block counts as one. -/
def Draft.lines (d : Draft) : List Text :=
  layout.preamble d.metadata ++ d.files.flatMap (FileDraft.render layout w) ++ layout.ending

/-- A draft as it is written. -/
def Draft.render (d : Draft) : Text := (d.lines layout w).flatMap (· ++ ['\n'])

end Render

/-! ## What can be written -/

/-- A text that can be the value of a field. -/
structure Inline (t : Text) : Prop where
  /-- It has no blanks at its ends. -/
  trimmed : Text.trim t = t
  /-- It is one line. -/
  line : '\n' ∉ t

/-- A text that can be in a header as the path of a file. -/
structure Pathlike (t : Text) : Prop extends Inline t where
  nonempty : t ≠ []
  arrow : ¬ ['-', '>'] <:+: t
  /-- It is not between backticks. -/
  ticks : ¬ Enclosed t

/-- A text that can stand in a block. -/
structure Body (fence : Fence) (t : Text) : Prop where
  noReturn : '\r' ∉ t
  noFeed : t.getLast? ≠ some '\n'
  /-- None of its lines closes the block. -/
  unclosed : ∀ line ∈ Text.lines t, fence.closes (Text.trim line) = false

/-- The options that are given for an anchor can be read. -/
structure AnchorDraft.Valid (caseSensitive : Bool) (a : AnchorDraft) : Prop where
  /-- The level of braces is a level or minus one. -/
  depth : ∀ n, a.depth = some n → -1 ≤ n ∧ n ≤ 0x7FFFFFFF
  /-- A text that is found as a pattern is one. -/
  pattern : a.mode.getD .normalized = .regex →
    ∃ node, Pattern.ofText caseSensitive a.text = .ok node

/-- The options that are given for a match can be read, and the text can be looked for. -/
structure OptionsDraft.Valid (defaults : MatchDefaults) (target : Text) (o : OptionsDraft) :
    Prop where
  /-- The score is a double between zero and one. -/
  threshold : ∀ t, o.threshold = some t → ∃ x, threshold? t = some x
  /-- The number of words is a count. -/
  windowSize : ∀ n, o.windowSize = some n → n ≤ Text.maxCount
  anchor : ∀ a, o.anchor = some a → a.Valid (o.options defaults).folding.caseSensitive
  /-- Lines are given by their numbers. -/
  lineRange : (o.options defaults).mode = .lineRange → ∃ first last,
    Literal.parseLineRange? target = some (first, last) ∧ 1 ≤ first ∧ first ≤ last
  /-- A text that is found as a pattern is one. -/
  pattern : (o.options defaults).mode = .regex →
    ∃ node, Pattern.ofText (o.options defaults).folding.caseSensitive target = .ok node

section Valid

variable (defaults : MatchDefaults) (layout : Layout) (w : Wording)

/-- A file patch can be written. -/
structure FileDraft.Valid (f : FileDraft) : Prop where
  path : Pathlike f.path
  description : Inline f.description
  options : ∀ target o, f.action.search? = some (target, o) → o.Valid defaults target
  /-- A destination has no blanks at its ends. -/
  destination : ∀ path, f.action.block .destination = some path → Text.trim path = path
  body : ∀ role t, f.action.block role = some t → Body (layout.fence (w.label role)) t

/-- A draft can be written. -/
structure Draft.Valid (d : Draft) : Prop where
  name : d.metadata.name ≠ [] ∧ Inline d.metadata.name
  description : Inline d.metadata.description
  author : d.metadata.author ≠ [] ∧ Inline d.metadata.author
  version : d.metadata.version ≠ [] ∧ Inline d.metadata.version
  files : ∀ f ∈ d.files, f.Valid defaults layout w

end Valid

end Emend.Document
