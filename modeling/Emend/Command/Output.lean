import Emend.Command.Paint
import Emend.Diff.Lines
import Emend.Json
import Emend.Run.Report
/-!
# What the commands print

Reports are printed for a reader or as JSON.  With the results of a document
the changes of its files can be shown as line diffs: each one is between what
the file last held and what it holds after the result.
-/

namespace Emend.Command

/-- A line of output. -/
def line (t : Text) : Text := t ++ ['\n']

/-! ## JSON -/

/-- What a document says about itself, as JSON. -/
def metadataJson (m : Metadata) : Json :=
  .object [("name", .text m.name), ("description", .text m.description),
    ("author", .text m.author), ("version", .text m.version)]

/-- A result as JSON. -/
def resultJson (r : PatchResult) : Json :=
  .object [("file", .text r.file), ("description", .text r.description),
    ("action", .text r.action.name.toList), ("status", .text r.outcome.status.name.toList),
    ("message", .text r.outcome.message.toList)]

/-- Counts as JSON. -/
def statsJson (s : Stats) : Json :=
  .object [("success", .count s.success), ("skipped", .count s.skipped),
    ("failed", .count s.failed)]

/-- A report on an applied document as JSON. -/
def applyJson (r : ApplyReport) : Json :=
  .object [("metadata", metadataJson r.metadata), ("dryRun", .boolean r.dryRun),
    ("results", .list (r.results.map resultJson)), ("stats", statsJson r.stats)]

/-- A report on the validity of a document as JSON. -/
def validateJson : ValidateReport → Json
  | .valid metadata n =>
    .object [("valid", .boolean true), ("metadata", metadataJson metadata), ("fileCount", .count n)]
  | .invalid error => .object [("valid", .boolean false), ("error", .text error.message.toList)]

/-- One report, or a list of several. -/
def printJson (reports : List Json) : Text :=
  line (Json.pretty (match reports with
    | [report] => report
    | reports => .list reports))

/-! ## Diffs -/

/-- What each file held before the result that wrote it, and what it holds
after it; `held` is what files are known to hold. -/
def contentPairs (held : Document.Entries Text) : List PatchResult → List (Option (Text × Text))
  | [] => []
  | r :: rest =>
    match r.outcome.newContent with
    | none => none :: contentPairs held rest
    | some after => some ((held r.file).getD [], after) :: contentPairs (held.put r.file after) rest

/-- What the files of a document hold before it is applied. -/
def heldBefore (tree : FileTree) (directory : Path) (base : Text) :
    List FilePatch → Document.Entries Text
  | [] => Document.Entries.none
  | patch :: rest =>
    let held := heldBefore tree directory base rest
    match tree.readFrom directory (Path.joinText base patch.path) with
    | .error _ => held
    | .ok bytes =>
      match Utf8.decode bytes with
      | .error _ => held
      | .ok t => held.put patch.path t

/-- A line of a diff as it is printed. -/
def changeText (colours : Bool) (c : Diff.LineChange) : Text :=
  let closing : Text := if c.isOpen then ['\n'] else []
  let (sign, paint) := match c.tag with
    | .kept => (' ', Paint.plain)
    | .removed => ('-', Paint.red)
    | .added => ('+', Paint.green)
  paint.apply colours (sign :: (c.text ++ closing)) ++ closing

/-- A diff as it is printed. -/
def diffText (colours : Bool) (file old new : Text) : Text :=
  let header (mark note : String) :=
    line (Paint.dimmed.apply colours (mark.toList ++ file ++ note.toList))
  ['\n'] ++ header "--- " " (original)" ++ header "+++ " " (patched)" ++
    (Diff.lineChanges old new).flatMap (changeText colours)

/-! ## Results -/

/-- A result as it is printed. -/
def resultText (colours : Bool) (r : PatchResult) : Text :=
  let (symbol, symbolPaint, paint) := match r.outcome.status with
    | .success => ('✓', Paint.green, Paint.plain)
    | .skipped => ('⊘', Paint.yellow, Paint.yellow)
    | .failed => ('✗', Paint.red, Paint.red)
    | .fileNotFound => ('?', Paint.red, Paint.red)
  let head := symbolPaint.apply colours [symbol] ++ [' '] ++ r.file ++ [' ', '['] ++
    Paint.cyan.apply colours r.action.name.toList ++ [']', ':', ' '] ++
    paint.apply colours r.outcome.message.toList
  line head ++
    (if r.description.isEmpty then []
    else line ("    ".toList ++ Paint.dimmed.apply colours r.description))

/-- A result with the diff of its file, if the two contents differ. -/
def entryText (colours : Bool) (r : PatchResult) (pair : Option (Text × Text)) : Text :=
  resultText colours r ++
    (match pair with
    | some (old, new) => if old = new then [] else diffText colours r.file old new
    | none => [])

/-- A count of results as it is printed. -/
def countText (colours : Bool) (paint : Paint) (n : Nat) (what : String) : Text :=
  line ("  ".toList ++ paint.apply colours (Text.ofNat n) ++ (' ' :: what.toList))

/-- A report on an applied document as it is printed, with the contents of
which diffs are shown. -/
def applyText (colours : Bool) (label base : Text) (r : ApplyReport)
    (pairs : List (Option (Text × Text))) : Text :=
  line (Paint.bold.apply colours "Patch:".toList ++ [' '] ++ r.metadata.name) ++
    line ("Source: ".toList ++ label) ++
    line ("Base directory: ".toList ++ base) ++
    (if r.dryRun then line (Paint.cyan.apply colours "[DRY RUN - no files were modified]".toList)
    else []) ++
    line [] ++
    (r.results.zip pairs).flatMap (fun (result, pair) => entryText colours result pair) ++
    line [] ++
    line (Paint.bold.apply colours "Summary:".toList) ++
    countText colours .green r.stats.success "succeeded" ++
    countText colours .yellow r.stats.skipped "skipped" ++
    countText colours .red r.stats.failed "failed" ++
    line []

/-- A report on a valid document as it is printed. -/
def validText (colours : Bool) (label : Text) (m : Metadata) (fileCount : Nat) : Text :=
  line (Paint.green.apply colours ['✓'] ++ [' '] ++ label ++ [':', ' '] ++ m.name ++ [' ', '('] ++
    Text.ofNat fileCount ++ " file patches, by ".toList ++ m.author ++ ", v".toList ++ m.version ++
    [')'])

/-- A report on an invalid document as it is printed. -/
def invalidText (colours : Bool) (label : Text) (e : DocumentError) : Text :=
  line (Paint.red.apply colours ['✗'] ++ [' '] ++ label ++ [':', ' '] ++
    Paint.red.apply colours e.message.toList)

end Emend.Command
