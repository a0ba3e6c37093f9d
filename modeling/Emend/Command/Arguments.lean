import Emend.Text.Basic
/-!
# Arguments of the command line

A command is `apply` or `validate` with the path of a patch document and
options, in any order.  An option is a word after two hyphens or a letter after
one; letters may be run together, and a value may follow its option at once.
An option is given at most once, and only the one that asks for more log output
may be repeated.  After two hyphens alone nothing is an option.
-/

namespace Emend.Command

/-- What is asked for. -/
inductive Request where
  /-- To apply patch documents. -/
  | apply (patch : Text) (baseDir config : Option Text) (dryRun diff json : Bool)
  /-- To say whether patch documents are valid. -/
  | validate (patch : Text) (config : Option Text) (json : Bool)
  /-- To say how the program is used. -/
  | help
  /-- To say which version this is. -/
  | version
  deriving DecidableEq, Repr

/-- An option. -/
inductive Flag where
  /-- The base directory. -/
  | baseDir
  /-- The settings file. -/
  | config
  /-- To change nothing. -/
  | dryRun
  /-- To show what changes. -/
  | diff
  /-- To print a report as JSON. -/
  | json
  /-- To log more. -/
  | verbose
  /-- To say how the program is used. -/
  | help
  /-- To say which version this is. -/
  | version
  deriving DecidableEq, Repr

namespace Flag

/-- The word of an option. -/
def word : Flag → String
  | baseDir => "base-dir"
  | config => "config"
  | dryRun => "dry-run"
  | diff => "diff"
  | json => "json"
  | verbose => "verbose"
  | help => "help"
  | version => "version"

/-- The letter of an option. -/
def letter? : Flag → Option Char
  | baseDir => some 'b'
  | dryRun => some 'n'
  | diff => some 'd'
  | verbose => some 'v'
  | help => some 'h'
  | version => some 'V'
  | config | json => none

/-- Whether an option has a value. -/
def takesValue : Flag → Bool
  | baseDir | config => true
  | _ => false

end Flag

/-- A part of the command line in which some options are known. -/
inductive Scope where
  /-- Before the command. -/
  | top
  /-- After `apply`. -/
  | apply
  /-- After `validate`. -/
  | validate
  deriving DecidableEq, Repr

/-- The options that are known in a part. -/
def Scope.flags : Scope → List Flag
  | top => [.verbose, .help, .version]
  | apply => [.baseDir, .config, .dryRun, .diff, .json, .verbose, .help]
  | validate => [.config, .json, .verbose, .help]

/-- What has been read of the arguments of a command. -/
structure Given where
  /-- The path of the patch document. -/
  patch : Option Text := none
  /-- The options, with the values of those that have one. -/
  flags : List (Flag × Text) := []

/-- How the reading of arguments goes on. -/
inductive Reading where
  /-- With what has been read. -/
  | going (given : Given)
  /-- It is over. -/
  | finished (request : Request)

/-- The value of an option. -/
def Given.value? (g : Given) (flag : Flag) : Option Text :=
  (g.flags.find? fun f => f.1 == flag).map Prod.snd

/-- Whether an option is given. -/
def Given.has (g : Given) (flag : Flag) : Bool := (g.value? flag).isSome

/-- What has been read, with one more option; none if it cannot be given again
or its value is empty. -/
def Given.add (g : Given) (flag : Flag) (value : Text) : Option Reading :=
  match flag with
  | .help => some (.finished .help)
  | .version => some (.finished .version)
  | .verbose => some (.going g)
  | flag =>
    if g.has flag || (flag.takesValue && value.isEmpty) then none
    else some (.going { g with flags := g.flags ++ [(flag, value)] })

/-- Whether an argument is an option: one hyphen alone is none. -/
def isOption (arg : Text) : Bool :=
  match arg with
  | '-' :: _ :: _ => true
  | _ => false

/-- The value that follows an option, and the arguments after it. -/
def takeValue? (args : List Text) : Option (Text × List Text) :=
  match args with
  | value :: rest => if isOption value then none else some (value, rest)
  | [] => none

/-- Reads a word after two hyphens. -/
def readWord (scope : Scope) (g : Given) (body : Text) (args : List Text) :
    Option (Reading × List Text) := do
  let name := Text.before (· == '=') body
  let flag ← scope.flags.find? fun f => f.word.toList == name
  match body.drop name.length with
  | _ :: value => if flag.takesValue then return (← g.add flag value, args) else none
  | [] =>
    if flag.takesValue then
      let (value, args) ← takeValue? args
      return (← g.add flag value, args)
    else return (← g.add flag [], args)

/-- Reads letters after one hyphen. -/
def readLetters (scope : Scope) (g : Given) (args : List Text) :
    Text → Option (Reading × List Text)
  | [] => some (.going g, args)
  | c :: rest => do
    let flag ← scope.flags.find? fun f => f.letter? == some c
    if flag.takesValue then
      match rest with
      | [] =>
        let (value, args) ← takeValue? args
        return (← g.add flag value, args)
      | '=' :: value => return (← g.add flag value, args)
      | value => return (← g.add flag value, args)
    else
      match ← g.add flag [] with
      | .finished request => return (.finished request, args)
      | .going g => readLetters scope g args rest

/-- What has been read, with the path of the patch document. -/
def Given.withPatch (g : Given) (arg : Text) : Option Given :=
  if g.patch.isSome || arg.isEmpty then none else some { g with patch := some arg }

/-- Reads the arguments of a command; `fuel` bounds their number. -/
def readArguments (scope : Scope) : (fuel : Nat) → Given → List Text → Option Reading
  | 0, _, _ => none
  | _ + 1, g, [] => some (.going g)
  | fuel + 1, g, arg :: args =>
    if arg = ['-', '-'] then (args.foldlM Given.withPatch g).map .going
    else if isOption arg then do
      let (reading, args) ← match arg with
        | '-' :: '-' :: body => readWord scope g body args
        | _ => readLetters scope g args arg.tail
      match reading with
      | .finished request => return .finished request
      | .going g => readArguments scope fuel g args
    else do readArguments scope fuel (← g.withPatch arg) args

/-- The request of what has been read after a command. -/
def requestOf? (scope : Scope) (g : Given) : Option Request := do
  let patch ← g.patch
  match scope with
  | .top => none
  | .apply =>
    return .apply patch (g.value? .baseDir) (g.value? .config) (g.has .dryRun) (g.has .diff)
      (g.has .json)
  | .validate => return .validate patch (g.value? .config) (g.has .json)

/-- The command of a name. -/
def scopeOf? (name : Text) : Option Scope :=
  if name = "apply".toList then some .apply
  else if name = "validate".toList then some .validate
  else none

/-- The request for help that arguments make. -/
def helpRequest? (args : List Text) : Option Request :=
  match args with
  | [] => some .help
  | [name] => if (scopeOf? name).isSome || name = "help".toList then some .help else none
  | _ => none

/-- The request that arguments make; none if they make none. -/
def request? : (fuel : Nat) → List Text → Option Request
  | 0, _ => none
  | _ + 1, [] => none
  | fuel + 1, arg :: args =>
    if arg = ['-', '-'] then none
    else if isOption arg then do
      let (reading, args) ← match arg with
        | '-' :: '-' :: body => readWord .top {} body args
        | _ => readLetters .top {} args arg.tail
      match reading with
      | .finished request => return request
      | .going _ => request? fuel args
    else if arg = "help".toList then helpRequest? args
    else do
      let scope ← scopeOf? arg
      match ← readArguments scope (args.length + 1) {} args with
      | .finished request => return request
      | .going g => requestOf? scope g

/-- The request that arguments make; none if they make none. -/
def Request.ofArguments? (args : List Text) : Option Request := request? (args.length + 1) args

example : Request.ofArguments? ["apply".toList, "-nb=x".toList, "-".toList] =
    some (.apply ['-'] (some ['x']) none true false false) := by decide
example : Request.ofArguments? ["validate".toList, "a".toList, "b".toList] = none := by decide

end Emend.Command
