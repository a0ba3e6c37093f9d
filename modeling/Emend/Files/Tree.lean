import Emend.Bytes.Utf8
import Emend.Files.Path
/-!
# File trees

A file tree says what is at each path: a file with its bytes, a directory, a
link with the path that it leads to, or nothing.  At the root there always is a
directory.

`get?` is what is at a path, without following links.  `put` and `erase` change
what is at one path and nothing else (`get?_put`, `get?_erase`).
-/

namespace Emend

/-- What is at a path. -/
inductive Node where
  /-- A file. -/
  | file (bytes : Bytes)
  /-- A directory. -/
  | directory
  /-- A link to a written path. -/
  | link (target : Text)
  deriving DecidableEq, Repr

/-- A file tree: what is at each path below the root. -/
structure FileTree where
  /-- The entries, each path once. -/
  entries : List (Path × Node) := []
  deriving Repr

namespace FileTree

/-- What is at a path. -/
def get? (tree : FileTree) (path : Path) : Option Node :=
  if path.isEmpty then some .directory
  else (tree.entries.find? fun e => e.1 == path).map Prod.snd

/-- The tree without what is at a path. -/
def erase (path : Path) (tree : FileTree) : FileTree :=
  ⟨tree.entries.filter fun e => e.1 != path⟩

/-- The tree with something else at a path. -/
def put (path : Path) (node : Node) (tree : FileTree) : FileTree :=
  ⟨(path, node) :: (tree.erase path).entries⟩

theorem get?_nil (tree : FileTree) : tree.get? [] = some .directory := rfl

theorem get?_put {path : Path} (h : path ≠ []) (node : Node) (tree : FileTree) (p : Path) :
    (tree.put path node).get? p = if p = path then some node else tree.get? p := by
  by_cases hp : p = []
  · subst hp
    rw [if_neg (Ne.symm h)]
    rfl
  · by_cases heq : p = path
    · subst heq
      simp [get?, put, hp]
    · have hne : (path == p) = false := by simpa using Ne.symm heq
      simp only [get?, put, erase, List.isEmpty_iff, hp, if_false, if_neg heq,
        List.find?_cons, hne, List.find?_filter]
      congr 2
      funext e
      by_cases he : e.1 = p <;> simp [he, heq]

theorem get?_erase {path : Path} (h : path ≠ []) (tree : FileTree) (p : Path) :
    (tree.erase path).get? p = if p = path then none else tree.get? p := by
  by_cases hp : p = []
  · subst hp
    rw [if_neg (Ne.symm h)]
    rfl
  · by_cases heq : p = path
    · subst heq
      simp only [get?, erase, List.isEmpty_iff, hp, if_false, if_true, List.find?_filter]
      simp
    · simp only [get?, erase, List.isEmpty_iff, hp, if_false, if_neg heq, List.find?_filter]
      congr 2
      funext e
      by_cases he : e.1 = p <;> simp [he, heq]

/-- Everything below a path, each by its path from there. -/
def below (root : Path) (tree : FileTree) : List (Path × Node) :=
  tree.entries.filterMap fun (path, node) =>
    if root.isPrefixOf path && root.length < path.length then some (path.drop root.length, node)
    else none

/-- The names in a directory, each with what it names. -/
def children (dir : Path) (tree : FileTree) : List (Text × Node) :=
  (tree.below dir).filterMap fun (path, node) =>
    match path with
    | [name] => some (name, node)
    | _ => none

/-- What makes one tree of another one: at each path that differs, what is put
there, or none if it is erased.  What was put first comes first. -/
def changes (old new : FileTree) : List (Path × Option Node) :=
  let erased := old.entries.filter fun e => (new.get? e.1).isNone
  let put := new.entries.reverse.filter fun e => old.get? e.1 != some e.2
  erased.map (fun e => (e.1, none)) ++ put.map fun e => (e.1, some e.2)

end FileTree

end Emend
