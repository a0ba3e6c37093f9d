import Emend.Command.Run
/-!
# What a command looks at

A command looks at the places that its arguments name and at those that its
documents name.  Which documents there are is only known once the first ones
have been looked at, so `reach` says what is looked at as far as a file tree
tells: first with an empty tree, then with what was found.
-/

namespace Emend.Command

/-- Whether a request reads the standard input. -/
def Request.readsInput : Request → Bool
  | apply patch .. | validate patch .. => isInput patch
  | help | version => false

/-- The written paths that a file patch names. -/
def patchReach (patch : FilePatch) : List Text :=
  match patch.action with
  | .moveFile destination _ => [patch.path, destination]
  | _ => [patch.path]

/-- The written paths that a document names. -/
def documentReach (defaults : MatchDefaults) (text : Text) : List Text :=
  match Document.parse defaults text with
  | .ok document => document.files.flatMap patchReach
  | .error _ => []

/-- The written paths that the documents of a patch name. -/
def sourcesReach (env : Environment) (defaults : MatchDefaults) (patch : Text) : List Text :=
  match readSources env patch with
  | .ok sources => sources.flatMap fun source => documentReach defaults source.text
  | .error _ => []

/-- The written paths that a request looks at, as far as the tree tells. -/
def reach (env : Environment) : Request → List Text
  | .apply patch baseDir config .. =>
    let base := env.baseOf baseDir
    let defaults := (Settings.discover env.tree env.directory config base).toOption.getD {}
    [patch, base, config.getD (Path.joinText base Settings.fileName)] ++
      (sourcesReach env defaults patch).map (Path.joinText base)
  | .validate patch config _ => patch :: config.toList
  | .help | .version => []

end Emend.Command
