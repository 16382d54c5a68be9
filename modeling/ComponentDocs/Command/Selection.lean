import ComponentDocs.Command.RunError
import ComponentDocs.Document.Writer
import ComponentDocs.Files.Search
import ComponentDocs.Log.Event

/-! Which files the arguments of a command line stand for. -/
namespace ComponentDocs.Command

open Log (Event)

/-- A name is that of a snapshot if it ends in `.json` and has more than that. -/
def isSnapshotName (name : String) : Bool :=
  ".json".toList.isSuffixOf name.toList && name.length > ".json".length

def snapshotsIn (workspace : Workspace) (directory : Path) : List Path :=
  ((workspace.names directory).filter isSnapshotName).map directory.join |>.filter workspace.isFile

def noMatchEvent (pattern : String) : Event where
  level := .warn
  target := "extdoc"
  message := "no files matched"
  fields := [("pattern", pattern)]

/-- Files in the order of paths, no two with the same parts, and what is worth noting
about the arguments that they come from. -/
structure Selection where
  files : List Path := []
  log : List Event := []

namespace Selection

def insertAll (paths : List Path) (selection : Selection) : Selection :=
  { selection with files := paths.foldl (fun files path => path.insert files) selection.files }

/-- Takes in an argument: a file stands for itself, a directory for the snapshots in
it, and anything else is a pattern. -/
def add (workspace : Workspace) (argument : String) (selection : Selection) :
    Except RunError Unit × Selection :=
  let path : Path := ⟨argument⟩
  if workspace.isFile path then (.ok (), selection.insertAll [path])
  else if workspace.isDirectory path then (.ok (), selection.insertAll (snapshotsIn workspace path))
  else
    match Pattern.read argument with
    | .error error => (.error (.invalidPattern argument error), selection)
    | .ok pattern =>
      match workspace.matching pattern with
      | [] => (.ok (), { selection with log := selection.log ++ [noMatchEvent argument] })
      | files => (.ok (), selection.insertAll files)

/-- Takes in arguments up to the first that is no pattern. -/
def ofArguments (workspace : Workspace) (arguments : List String) : Except RunError Unit × Selection :=
  eachStep (add workspace) arguments {}

end Selection

end ComponentDocs.Command
