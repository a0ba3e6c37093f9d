import Emend.Decimal.Reading
import Emend.Distance.JaroWinkler
import Emend.Document.Basic
import Emend.Document.Section
import Emend.Match.Literal
/-!
# From a section to a file patch

A section is a file patch if it has an action, every block that the action
needs, and no option with a value that it cannot have.

Blocks without a label take, in order, the roles of the action that have no
block yet.  The block `TO` is the destination of a move and the replacement of
everything else, unless there is one already.  Options start from the defaults.
A pattern and a range of lines are checked here, so a file patch holds none
that could not be used.
-/

namespace Emend.Document

/-! ## Actions -/

/-- The keywords of actions. -/
def actionKeywords : List (String × ActionKind) :=
  [("replace", .replace), ("insert_before", .insertBefore), ("insert_after", .insertAfter),
    ("delete", .delete), ("create_file", .createFile), ("replace_file", .replaceFile),
    ("delete_file", .deleteFile), ("move_file", .moveFile), ("move", .moveFile)]

/-- An action as it is written, in the form of a keyword. -/
def actionKeyword (written : Text) : Text :=
  (Text.asciiLower (Text.trim written)).map fun c => if c = ' ' ∨ c = '-' then '_' else c

/-- The action of a keyword. -/
def actionOfKeyword? (keyword : Text) : Option ActionKind :=
  (actionKeywords.find? fun entry => entry.1.toList == keyword).map Prod.snd

/-- The roles that blocks without a label take. -/
def rolesOf : ActionKind → List Role
  | .replace => [.target, .replacement]
  | .insertBefore | .insertAfter => [.target, .content]
  | .delete => [.target]
  | .createFile | .replaceFile => [.content]
  | .deleteFile => []
  | .moveFile => [.destination]

/-! ## Blocks -/

/-- The blocks with the block `TO` in the role that it has for an action. -/
def settleTo (kind : ActionKind) (blocks : Entries Role) : Entries Role :=
  match blocks .outcome with
  | none => blocks
  | some body =>
    let role := if kind = .moveFile then Role.destination else Role.replacement
    let rest := blocks.erase .outcome
    if (rest role).isSome then rest else rest.put role body

/-- The blocks with a block in the first of the given roles that has none. -/
def fillFirst (roles : List Role) (blocks : Entries Role) (body : Text) : Entries Role :=
  match roles.find? fun r => (blocks r).isNone with
  | some role => blocks.put role body
  | none => blocks

/-- The blocks of a section by their roles for an action. -/
def Section.blocks (s : Section) (kind : ActionKind) : Entries Role :=
  let blocks := settleTo kind s.labelled
  let blocks := match s.destination with
    | some d => blocks.put .destination d
    | none => blocks
  s.unlabelled.foldl (fillFirst (rolesOf kind)) blocks

/-! ## Options -/

/-- The value of a yes or a no; anything else changes nothing. -/
def flag (value : Option Text) (otherwise : Bool) : Bool :=
  match value.map fun v => Text.asciiLower (Text.trim v) with
  | none => otherwise
  | some v =>
    if v = "true".toList ∨ v = "yes".toList then true
    else if v = "false".toList ∨ v = "no".toList then false
    else otherwise

/-- A mode that an option names. -/
def modeOf (file value : Text) : Except DocumentError MatchMode :=
  match MatchMode.ofKeyword? value with
  | some mode => .ok mode
  | none =>
    .error (.unknownMode file value
      (Likeness.suggest? value (MatchMode.all.map fun m => m.name.toList)))

/-- The value of an option that is read by `read?`; the given one if the option
is missing. -/
def readOption {α : Type} (file : Text) (options : Entries Text) (key : String)
    (read? : Text → Option α) (reason : String) (otherwise : α) : Except DocumentError α :=
  match options key.toList with
  | none => .ok otherwise
  | some value =>
    match read? (Text.trim value) with
    | some a => .ok a
    | none => .error (.invalidOption file key value reason)

/-- A score between zero and one. -/
def threshold? (t : Text) : Option Float := do
  let x ← Decimal.float? t
  if 0.0 ≤ x && x ≤ 1.0 then some x else none

/-- A level of braces, or minus one. -/
def depth? (t : Text) : Option Int := do
  let n ← Text.int32? t
  if -1 ≤ n then some n else none

/-- That a text is a pattern. -/
def checkPattern (file pattern : Text) (caseSensitive : Bool) : Except DocumentError Unit :=
  match Pattern.ofText caseSensitive pattern with
  | .ok _ => .ok ()
  | .error e => .error (.invalidPattern file e)

/-- The options that are yes or no. -/
def flagged (options : Entries Text) (m : MatchOptions) : MatchOptions :=
  let read (key : String) (otherwise : Bool) := flag (options key.toList) otherwise
  { m with
    folding :=
      { ignoreComments := read "IGNORE_COMMENTS" m.folding.ignoreComments
        ignoreEmptyLines := read "IGNORE_EMPTY_LINES" m.folding.ignoreEmptyLines
        caseSensitive := read "CASE_SENSITIVE" m.folding.caseSensitive }
    checks :=
      { functionName := read "MATCH_FUNCTION_NAME" m.checks.functionName
        className := read "MATCH_CLASS_NAME" m.checks.className
        parameterTypes := read "MATCH_PARAMETER_TYPES" m.checks.parameterTypes
        parameterNames := read "MATCH_PARAMETER_NAMES" m.checks.parameterNames
        returnType := read "MATCH_RETURN_TYPE" m.checks.returnType
        modifiers := read "MATCH_MODIFIERS" m.checks.modifiers } }

/-- The anchor with the given text. -/
def anchorOf (file text : Text) (options : Entries Text) (depth : Int) (caseSensitive : Bool) :
    Except DocumentError Anchor := do
  let mode ← match options "ANCHOR_MATCH_MODE".toList with
    | some value => modeOf file value
    | none => pure .normalized
  let scope ← match options "ANCHOR_SCOPE".toList with
    | none => pure .auto
    | some value =>
      match AnchorScope.ofKeyword? value with
      | some scope => pure scope
      | none => throw (.unknownScope file value)
  let depth ← readOption file options "ANCHOR_SEARCH_DEPTH" depth?
    "expected -1 or a non-negative integer" depth
  if mode = .regex then checkPattern file text caseSensitive
  return { text, mode, scope, depth }

/-- That a text can be looked for by the strategy of the options. -/
def checkTarget (file target : Text) (m : MatchOptions) : Except DocumentError Unit :=
  match m.mode with
  | .lineRange =>
    if (Literal.parseLineRange? target).any fun (first, last) => 1 ≤ first && first ≤ last then
      .ok ()
    else .error (.invalidLineRange file (Text.trim target))
  | .regex => checkPattern file target m.folding.caseSensitive
  | _ => .ok ()

/-- The options of a section whose action looks for `target`. -/
def matchOptions (defaults : MatchDefaults) (file target : Text) (options : Entries Text)
    (anchor : Option Text) : Except DocumentError MatchOptions := do
  let base := defaults.options
  let mode ← match options "MATCH_MODE".toList with
    | some value => modeOf file value
    | none => pure base.mode
  let threshold ← readOption file options "FUZZY_THRESHOLD" threshold?
    "expected a number between 0.0 and 1.0" base.threshold
  let windowSize ← readOption file options "TOKEN_WINDOW_SIZE" Text.count?
    "expected a non-negative integer" base.windowSize
  let m := flagged options { base with mode, threshold, windowSize }
  let anchor ← match anchor with
    | some text => some <$> anchorOf file text options defaults.anchorDepth m.folding.caseSensitive
    | none => pure none
  let m := { m with anchor }
  checkTarget file target m
  return m

/-! ## The file patch -/

/-- The action of a section. -/
def actionOf (defaults : MatchDefaults) (s : Section) (kind : ActionKind) :
    Except DocumentError Action := do
  let blocks := s.blocks kind
  let block (role : Role) (label : String) : Except DocumentError Text :=
    match blocks role with
    | some body => .ok body
    | none => .error (.missingBlock s.path kind.name label)
  let optionsFor (target : Text) :=
    matchOptions defaults s.path target s.options (blocks .anchor)
  match kind with
  | .replace =>
    let find ← block .target "FIND"
    let replacement ← block .replacement "REPLACE"
    return .replace find replacement (← optionsFor find)
  | .insertBefore =>
    let marker ← block .target "FIND"
    let content ← block .content "CONTENT"
    return .insertBefore marker content (← optionsFor marker)
  | .insertAfter =>
    let marker ← block .target "FIND"
    let content ← block .content "CONTENT"
    return .insertAfter marker content (← optionsFor marker)
  | .delete =>
    let find ← block .target "FIND"
    return .delete find (← optionsFor find)
  | .createFile => return .createFile (← block .content "CONTENT")
  | .replaceFile => return .replaceFile (← block .content "CONTENT")
  | .deleteFile => return .deleteFile
  | .moveFile =>
    let destination ← block .destination "DESTINATION"
    return .moveFile (Text.trim destination) (flag (s.options "OVERWRITE".toList) false)

/-- The file patch of a section. -/
def Section.build (defaults : MatchDefaults) (s : Section) : Except DocumentError FilePatch :=
  match s.action with
  | none => .error (.missingAction s.path)
  | some written =>
    let keyword := actionKeyword written
    match actionOfKeyword? keyword with
    | none =>
      .error (.unknownAction s.path written
        (Likeness.suggest? keyword (actionKeywords.map fun entry => entry.1.toList)))
    | some kind => do
      let action ← actionOf defaults s kind
      return { path := s.path, description := s.description, action }

end Emend.Document
