import Emend.Decimal.Shortest
import Emend.Files.Walk
import Emend.Match.Options
import Emend.Toml.Reader
/-!
# Settings

A settings file has one table, `defaults`, with the options that file sections
start from.  Every key is optional and a key that is none is refused.  The
values may also be listed without their keys, in the order of `Settings.fields`.

A score and a level of braces have to be in range; each one that is not is told
on a line of its own.
-/

namespace Emend

/-- Why there are no settings. -/
inductive SettingsError where
  /-- The file cannot be read. -/
  | unreadable (path : Text) (error : FileError)
  /-- The file holds no text. -/
  | notText (path : Text)
  /-- The text is no settings document. -/
  | malformed (path : Option Text)
  /-- Values are out of range. -/
  | outOfRange (path : Option Text) (issues : List Text)
  deriving DecidableEq, Repr

namespace SettingsError

/-- The mention of a path. -/
def pathText : Option Text → String
  | some path => " (" ++ String.ofList path ++ ")"
  | none => ""

/-- What is wrong, without the mention of the file. -/
def cause : SettingsError → String
  | unreadable _ error => error.message
  | notText _ => "stream did not contain valid UTF-8"
  | malformed _ => "not a valid settings document"
  | outOfRange _ issues => String.ofList (Text.join ['\n'] issues)

/-- What is said about missing settings. -/
def message (e : SettingsError) : String :=
  match e with
  | unreadable path _ | notText path =>
    "failed to read config from " ++ String.ofList path ++ ": " ++ e.cause
  | malformed path => "failed to parse config TOML" ++ pathText path ++ ": " ++ e.cause
  | outOfRange path _ => "invalid config" ++ pathText path ++ ": " ++ e.cause

/-- The fault with the file that it was found in. -/
def inFile (path : Text) : SettingsError → SettingsError
  | malformed none => malformed (some path)
  | outOfRange none issues => outOfRange (some path) issues
  | e => e

end SettingsError

namespace Settings

open Toml (Item Entries)

/-! ## Values -/

/-- A yes or a no. -/
def boolean? : Item → Option Bool
  | .boolean b => some b
  | _ => none

/-- A double; a whole number is one too. -/
def double? : Item → Option Float
  | .float x => some x
  | .integer n => some (Decimal.signed (n < 0) n.natAbs.toUInt64.toFloat)
  | _ => none

/-- A count. -/
def count? : Item → Option Nat
  | .integer n => if 0 ≤ n then some n.toNat else none
  | _ => none

/-- A whole number that fits in 32 bits. -/
def int32? : Item → Option Int
  | .integer n => if -0x80000000 ≤ n ∧ n ≤ 0x7FFFFFFF then some n else none
  | _ => none

/-- Whether an item holds nothing. -/
def isEmpty : Item → Bool
  | .array [] | .inlineTable [] | .table _ [] => true
  | _ => false

/-- The mode of a name. -/
def modeOfName? (name : Text) : Option MatchMode :=
  MatchMode.all.find? fun m => m.name.toList == name

/-- A mode: its name, or a table with its name as the only key and nothing at it. -/
def mode? : Item → Option MatchMode
  | .text name => modeOfName? name
  | .inlineTable [(name, item)] | .table _ [(name, item)] =>
    if isEmpty item then modeOfName? name else none
  | _ => none

/-! ## Fields -/

/-- A key with what it sets. -/
abbrev Field := String × (Item → MatchDefaults → Option MatchDefaults)

/-- The field of a key whose item is read by `read?`. -/
def field {α : Type} (key : String) (read? : Item → Option α)
    (set : α → MatchDefaults → MatchDefaults) : Field :=
  (key, fun item d => (read? item).map fun a => set a d)

/-- The field of an option of a match. -/
def matchField {α : Type} (key : String) (read? : Item → Option α)
    (set : α → MatchOptions → MatchOptions) : Field :=
  field key read? fun a d => { d with options := set a d.options }

/-- The field of what does not count. -/
def foldingField (key : String) (set : Bool → Folding → Folding) : Field :=
  matchField key boolean? fun b o => { o with folding := set b o.folding }

/-- The field of a part of a signature. -/
def checkField (key : String) (set : Bool → SignatureChecks → SignatureChecks) : Field :=
  matchField key boolean? fun b o => { o with checks := set b o.checks }

/-- The fields. -/
def fields : List Field :=
  [matchField "mode" mode? fun mode o => { o with mode },
   matchField "fuzzy_threshold" double? fun threshold o => { o with threshold },
   foldingField "ignore_comments" fun ignoreComments f => { f with ignoreComments },
   foldingField "ignore_empty_lines" fun ignoreEmptyLines f => { f with ignoreEmptyLines },
   foldingField "case_sensitive" fun caseSensitive f => { f with caseSensitive },
   checkField "match_function_name" fun functionName c => { c with functionName },
   checkField "match_class_name" fun className c => { c with className },
   checkField "match_parameter_types" fun parameterTypes c => { c with parameterTypes },
   checkField "match_parameter_names" fun parameterNames c => { c with parameterNames },
   checkField "match_return_type" fun returnType c => { c with returnType },
   checkField "match_modifiers" fun modifiers c => { c with modifiers },
   matchField "token_window_size" count? fun windowSize o => { o with windowSize },
   field "anchor_search_depth" int32? fun anchorDepth d => { d with anchorDepth }]

/-- The defaults with the values of some keys. -/
def ofEntries (d : MatchDefaults) : Entries → Option MatchDefaults
  | [] => some d
  | (key, item) :: rest => do
    let (_, set) ← fields.find? fun f => f.1.toList == key
    ofEntries (← set item d) rest

/-- The defaults with values in the order of some fields. -/
def ofItems (d : MatchDefaults) : List Field → List Item → Option MatchDefaults
  | (_, set) :: fields, item :: items => do ofItems (← set item d) fields items
  | _, _ => some d

/-- The defaults that the root table of a document gives. -/
def ofRoot (root : Entries) : Option MatchDefaults :=
  match root with
  | [] => some {}
  | [(key, item)] =>
    if key = "defaults".toList then
      match item with
      | .table _ entries | .inlineTable entries => ofEntries {} entries
      | .array items => ofItems {} fields items
      | .tables last earlier =>
        ofItems {} fields ((last :: earlier).reverse.map (Item.table .header))
      | _ => none
    else none
  | _ => none

/-! ## Documents -/

/-- What is said about a value that is out of range. -/
def issue (key : String) (value : Text) (expected : String) : Text :=
  s!"'defaults.{key}' is ".toList ++ value ++ s!", expected {expected}".toList

/-- What is out of range. -/
def issues (d : MatchDefaults) : List Text :=
  let threshold := d.options.threshold
  (if 0.0 ≤ threshold && threshold ≤ 1.0 then []
    else [issue "fuzzy_threshold" (Decimal.shortest threshold) "a number between 0.0 and 1.0"]) ++
  (if -1 ≤ d.anchorDepth then []
    else [issue "anchor_search_depth" (toString d.anchorDepth).toList
      "-1 (unbounded) or a non-negative depth"])

/-- The defaults that a document gives. -/
def ofText (t : Text) : Except SettingsError MatchDefaults :=
  match (Toml.read? t).bind ofRoot with
  | none => .error (.malformed none)
  | some d => if (issues d).isEmpty then .ok d else .error (.outOfRange none (issues d))

/-- The name of the settings file of a base directory. -/
def fileName : Text := "robust-patcher.toml".toList

/-- The defaults that a file gives; the path is looked up from a directory. -/
def ofFile (tree : FileTree) (dir : Path) (written : Text) : Except SettingsError MatchDefaults :=
  match tree.readFrom dir written with
  | .error e => .error (.unreadable written e)
  | .ok bytes =>
    match Utf8.decode bytes with
    | .error _ => .error (.notText written)
    | .ok t => (ofText t).mapError (SettingsError.inFile written)

/-- The defaults of the file that is named, or else of the one in the base
directory if there is one. -/
def discover (tree : FileTree) (dir : Path) (named : Option Text) (base : Text) :
    Except SettingsError MatchDefaults :=
  match named with
  | some written => ofFile tree dir written
  | none =>
    let candidate := Path.joinText base fileName
    if (tree.readFrom dir candidate).isOk then ofFile tree dir candidate else .ok {}

end Settings

end Emend
