import Emend.Command.Reach
/-!
# The program

The outer layer: it looks up on the disk what the command looks at, runs the
command on that, and writes back what the command changed.
-/

namespace Emend.Disk

/-- A path on the disk. -/
def entry (path : Path) : IO.FS.DirEntry :=
  { root := "/", fileName := String.ofList (Text.join ['/'] path) }

/-- The names of a path that holds no links. -/
def names (written : String) : Path := (Path.parts written.toList).filter fun n => !n.isEmpty

/-- The tree with what is on the disk at a path that is no link. -/
def record (tree : FileTree) (path : Path) : IO FileTree := do
  if ← (entry path).path.isDir then
    return tree.put path .directory
  match ← (IO.FS.readBinFile (entry path).path).toBaseIO with
  | .ok bytes => return tree.put path (.file bytes.toList)
  | .error _ => return tree

/-- The tree with a path that is no link and the directories above it. -/
def recordAll (tree : FileTree) (path : Path) : IO FileTree :=
  (List.range path.length).foldlM (fun tree n => record tree (path.take (n + 1))) tree

/-- What is written of a link that leads nowhere: no entry has this name. -/
def nowhere : Text := ['\x00']

/-- The tree with what is met on the disk on the way from a directory along the
parts of a path, and the place where the way ends. -/
def follow (tree : FileTree) (dir : Path) : List Text → IO (FileTree × Path)
  | [] => return (tree, dir)
  | part :: rest => do
    if Path.isDot part then follow tree dir rest
    else if Path.isDotDot part then follow tree dir.dropLast rest
    else
      let path := dir ++ [part]
      match ← (entry path).path.symlinkMetadata.toBaseIO with
      | .error _ => return (tree, path)
      | .ok found =>
        if found.type matches .symlink then
          match ← (IO.FS.realPath (entry path).path).toBaseIO with
          | .error _ => return (tree.put path (.link nowhere), path)
          | .ok place =>
            let place := place.toString
            let tree ← recordAll (tree.put path (.link place.toList)) (names place)
            follow tree (names place) rest
        else follow (← record tree path) path rest

/-- The tree with what a written path leads to, seen from a directory; of a
directory, its files as well. -/
def look (dir : Path) (tree : FileTree) (written : Text) : IO FileTree := do
  let (tree, place) ← follow tree [] (FileTree.partsFrom dir written)
  unless tree.get? place matches some .directory do return tree
  match ← (entry place).path.readDir.toBaseIO with
  | .error _ => return tree
  | .ok children =>
    children.toList.foldlM (fun tree child => do
      if !Command.isPatchName child.fileName.toList then return tree
      return (← follow tree place [child.fileName.toList]).1) tree

/-- Writes bytes to a path, all of them or none. -/
def write (path : Path) (bytes : Bytes) : IO Unit := do
  let aside := (entry (path.dropLast ++ [".emend-new".toList])).path
  IO.FS.writeBinFile aside ⟨bytes.toArray⟩
  IO.FS.rename aside (entry path).path

/-- Makes a change of the tree on the disk. -/
def commit (change : Path × Option Node) : IO Unit := do
  match change with
  | (path, none) => IO.FS.removeFile (entry path).path
  | (path, some .directory) => IO.FS.createDirAll (entry path).path
  | (path, some (.file bytes)) => write path bytes
  | (_, some (.link _)) => return ()

/-- A value that the surroundings give. -/
def setting? (name : String) : IO (Option Text) := do
  return (← IO.getEnv name).map String.toList

/-- What a command is run on, with nothing of the disk yet but the directory. -/
def surroundings (request : Command.Request) : IO Command.Environment := do
  let directory := names (← IO.currentDir).toString
  let input ← if request.readsInput then
      pure (← IO.FS.readBinFile "/dev/stdin").toList
    else pure []
  return {
    tree := ← recordAll {} directory
    directory, input
    baseDir := ← setting? "ROBUST_PATCHER_BASE_DIR"
    colours := Paint.isWanted (← setting? "CLICOLOR_FORCE") (← setting? "NO_COLOR")
      (← setting? "CLICOLOR") (← (← IO.getStdout).isTty) }

/-- An environment with what a request looks at on the disk. -/
def lookAll (env : Command.Environment) (request : Command.Request) :
    IO Command.Environment := do
  return { env with tree := ← (Command.reach env request).foldlM (look env.directory) env.tree }

/-- Runs the command that arguments ask for. -/
def run (args : List Text) : IO Command.Answer := do
  let request := (Command.Request.ofArguments? args).getD .help
  let env ← lookAll (← surroundings request) request
  let env ← lookAll env request
  let answer := Command.run env args
  (env.tree.changes answer.tree).forM commit
  return answer

end Emend.Disk

/-- Runs the command that the arguments ask for and prints what it says. -/
def main (args : List String) : IO UInt32 := do
  let answer ← Emend.Disk.run (args.map String.toList)
  IO.print (String.ofList answer.output)
  IO.eprint (String.ofList answer.errors)
  return answer.exit.toUInt32
