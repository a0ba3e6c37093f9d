import Emend.Command.Arguments
import Emend.Command.Output
import Emend.Settings
/-!
# Running a command

A command is run on an environment: a file tree, the directory that relative
paths are seen from, the standard input, and what the surroundings say.  The
answer is what is printed, the exit status, and the file tree afterwards.

Patch documents come from the standard input, from a file, or from the files of
a directory whose names end in `.md` or `.patch`, in the order of their names.
All are read before the first one is applied.  A fault that ends the run is
told with its causes.
-/

namespace Emend.Command

/-- What a command is run on. -/
structure Environment where
  /-- The file tree. -/
  tree : FileTree
  /-- The directory that relative paths are seen from. -/
  directory : Path
  /-- The standard input. -/
  input : Bytes := []
  /-- The base directory that the surroundings name. -/
  baseDir : Option Text := none
  /-- Whether output is painted. -/
  colours : Bool := false

/-- The base directory as it is written: the one that is asked for, or the one
that the surroundings name, or the directory that paths are seen from. -/
def Environment.baseOf (env : Environment) (asked : Option Text) : Text :=
  (asked <|> env.baseDir.filter fun b => !b.isEmpty).getD (Path.display env.directory)

/-- What comes of a command. -/
structure Answer where
  /-- The exit status. -/
  exit : Nat
  /-- What is printed. -/
  output : Text := []
  /-- What is printed about faults. -/
  errors : Text := []
  /-- The file tree afterwards. -/
  tree : FileTree

/-! ## Faults -/

/-- A fault that ends a run. -/
structure Failure where
  /-- What has failed. -/
  message : Text
  /-- Its causes, each one the cause of the one before. -/
  causes : List Text := []
  deriving DecidableEq, Repr

namespace Failure

/-- A cause with its lines indented; a number leads it if there are several. -/
def indented (number : Option Nat) (cause : Text) : Text :=
  match number with
  | none => "    ".toList ++ Text.join "\n    ".toList (Text.lines cause)
  | some n =>
    let digits := Text.ofNat n
    List.replicate (5 - digits.length) ' ' ++ digits ++ [':', ' '] ++
      Text.join "\n       ".toList (Text.lines cause)

/-- Causes as they are printed, of which the first has the given number. -/
def causesText (several : Bool) (n : Nat) : List Text → Text
  | [] => []
  | cause :: rest =>
    '\n' :: (indented (if several then some n else none) cause ++ causesText several (n + 1) rest)

/-- A fault as it is printed. -/
def text (f : Failure) : Text :=
  let causes :=
    if f.causes.isEmpty then []
    else "\n\nCaused by:".toList ++ causesText (1 < f.causes.length) 0 f.causes
  line ("Error: ".toList ++ f.message ++ causes)

/-- The fault of settings. -/
def ofSettings (e : SettingsError) : Failure := ⟨e.message.toList, [e.cause.toList]⟩

/-- The fault of a document that was not applied. -/
def ofApply (label : Text) (e : ApplyError) : Failure :=
  let causes := match e with
    | .baseMissing _ => []
    | .baseInvalid cause =>
      cause.message.toList :: (match cause with
        | .unresolved e => [e.message.toList]
        | _ => [])
    | .invalidDocument cause => [cause.message.toList]
  ⟨"failed to apply ".toList ++ label, e.message.toList :: causes⟩

end Failure

/-! ## Patch documents -/

/-- A patch document and where it comes from. -/
structure Source where
  /-- Where it comes from. -/
  label : Text
  /-- Its text. -/
  text : Text
  deriving DecidableEq, Repr

/-- What is said about bytes that are no text. -/
def notText : Text := "stream did not contain valid UTF-8".toList

/-- The document of a file. -/
def readSource (env : Environment) (written : Text) : Except Failure Source :=
  let failure (cause : Text) : Failure := ⟨"failed to read patch ".toList ++ written, [cause]⟩
  match env.tree.readFrom env.directory written with
  | .error e => .error (failure e.message.toList)
  | .ok bytes =>
    match Utf8.decode bytes with
    | .error _ => .error (failure notText)
    | .ok text => .ok ⟨written, text⟩

/-- The document of the standard input. -/
def readInput (env : Environment) : Except Failure Source :=
  match Utf8.decode env.input with
  | .error _ => .error ⟨"failed to read patch from stdin".toList, [notText]⟩
  | .ok text => .ok ⟨"<stdin>".toList, text⟩

/-- The ending of a name after its last dot; a dot at the start does not count. -/
def extension? (name : Text) : Option Text :=
  match (Text.splitOn '.' name).reverse with
  | ending :: stem :: rest => if stem.isEmpty && rest.isEmpty then none else some ending
  | _ => none

/-- Whether a file of this name holds a patch document. -/
def isPatchName (name : Text) : Bool :=
  extension? name == some "md".toList || extension? name == some "patch".toList

/-- Whether a name comes before another one or is the same. -/
def nameLe : Text → Text → Bool
  | [], _ => true
  | _ :: _, [] => false
  | a :: as, b :: bs => a < b || (a == b && nameLe as bs)

/-- The names of the files in a directory that hold patch documents, in order. -/
def patchNames (tree : FileTree) (dir : Path) : List Text :=
  let names := (tree.children dir).filterMap fun (name, node) =>
    match node with
    | .file _ => if isPatchName name then some name else none
    | _ => none
  names.mergeSort nameLe

/-- Whether a written path stands for the standard input: it is one hyphen, and
parts after it that stand for no name do not count. -/
def isInput (written : Text) : Bool :=
  match Path.parts written with
  | part :: rest => part == ['-'] && rest.all Path.isDot
  | [] => false

/-- The patch documents of a written path. -/
def readSources (env : Environment) (written : Text) : Except Failure (List Source) :=
  if isInput written then do return [← readInput env]
  else if env.tree.isDirectoryFrom env.directory written then
    let names := match env.tree.canonicalFrom env.directory written with
      | .ok dir => patchNames env.tree dir
      | .error _ => []
    if names.isEmpty then .error ⟨"No .md or .patch files found in ".toList ++ written, []⟩
    else names.mapM fun name => readSource env (Path.joinText written name)
  else do return [← readSource env written]

/-! ## Commands -/

/-- The answer to a command that a fault ends. -/
def failed (tree : FileTree) (output : Text) (f : Failure) : Answer :=
  { exit := 1, output, errors := f.text, tree }

/-- How documents are to be applied. -/
structure Applying where
  /-- The base directory, as it is written. -/
  base : Text
  /-- The options that file sections start from. -/
  defaults : MatchDefaults
  /-- Whether nothing is to be changed. -/
  dryRun : Bool
  /-- Whether diffs are shown. -/
  diff : Bool
  /-- Whether the reports are printed as JSON. -/
  json : Bool

/-- The contents of which diffs are shown with the results of a document. -/
def shownPairs (env : Environment) (a : Applying) (tree : FileTree) (text : Text)
    (results : List PatchResult) : List (Option (Text × Text)) :=
  if a.diff then
    let files := match Document.parse a.defaults text with
      | .ok document => document.files
      | .error _ => []
    contentPairs (heldBefore tree env.directory a.base files) results
  else results.map fun _ => none

/-- Applies documents one after another; `output` and `reports` are of those
before them. -/
def applySources (env : Environment) (a : Applying) (tree : FileTree) (output : Text)
    (reports : List ApplyReport) : List Source → Answer
  | [] =>
    { exit := if reports.any ApplyReport.hasFailures then 1 else 0
      output := if a.json then printJson (reports.map applyJson) else output
      tree }
  | source :: rest =>
    match apply tree env.directory a.base source.text a.dryRun a.defaults with
    | (after, .error e) => failed after output (Failure.ofApply source.label e)
    | (after, .ok report) =>
      let shown :=
        if a.json then []
        else applyText env.colours source.label a.base report
          (shownPairs env a tree source.text report.results)
      applySources env a after (output ++ shown) (reports ++ [report]) rest

/-- Runs the command that applies documents. -/
def runApply (env : Environment) (patch : Text) (baseDir config : Option Text)
    (dryRun diff json : Bool) : Answer :=
  let base := env.baseOf baseDir
  match Settings.discover env.tree env.directory config base with
  | .error e => failed env.tree [] (Failure.ofSettings e)
  | .ok defaults =>
    match readSources env patch with
    | .error f => failed env.tree [] f
    | .ok sources =>
      applySources env { base, defaults, dryRun, diff, json } env.tree [] [] sources

/-- Runs the command that says whether documents are valid. -/
def runValidate (env : Environment) (patch : Text) (config : Option Text) (json : Bool) : Answer :=
  let settings := match config with
    | some written => Settings.ofFile env.tree env.directory written
    | none => .ok {}
  match settings with
  | .error e => failed env.tree [] (Failure.ofSettings e)
  | .ok defaults =>
    match readSources env patch with
    | .error f => failed env.tree [] f
    | .ok sources =>
      let reports := sources.map fun source => (source.label, validate source.text defaults)
      let valid (label : Text) : ValidateReport → Text
        | .valid m n => validText env.colours label m n
        | .invalid _ => []
      let invalid (label : Text) : ValidateReport → Text
        | .valid .. => []
        | .invalid e => invalidText env.colours label e
      let exit := if reports.any fun (_, r) => r matches .invalid _ then 1 else 0
      if json then
        { exit, output := printJson (reports.map fun (_, r) => validateJson r), tree := env.tree }
      else
        { exit
          output := reports.flatMap fun (label, r) => valid label r
          errors := reports.flatMap fun (label, r) => invalid label r
          tree := env.tree }

/-- How the program is used. -/
def usage : Text :=
  ("Apply drift-tolerant patch documents to a source tree\n\n" ++
    "Usage: robust-patcher [OPTIONS] <COMMAND>\n\n" ++
    "Commands:\n" ++
    "  apply     Apply a patch document to a base directory\n" ++
    "  validate  Parse a patch document without touching any files\n" ++
    "  help      Print this message or the help of the given subcommand(s)\n\n" ++
    "Options:\n" ++
    "  -v, --verbose...  Increase log verbosity (-v debug, -vv trace)\n" ++
    "  -h, --help        Print help\n" ++
    "  -V, --version     Print version\n").toList

/-- Runs the command that arguments ask for; arguments that ask for none are a
usage error. -/
def run (env : Environment) (args : List Text) : Answer :=
  match Request.ofArguments? args with
  | none => { exit := 2, errors := usage, tree := env.tree }
  | some .help => { exit := 0, output := usage, tree := env.tree }
  | some .version => { exit := 0, output := "robust-patcher 0.1.0\n".toList, tree := env.tree }
  | some (.apply patch baseDir config dryRun diff json) =>
    runApply env patch baseDir config dryRun diff json
  | some (.validate patch config json) => runValidate env patch config json

end Emend.Command
