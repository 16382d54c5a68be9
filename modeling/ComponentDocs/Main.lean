import ComponentDocs.Command.Run
import ComponentDocs.Files.Changes

/-! The program: gathers what a run needs, and carries out what comes of it. -/
namespace ComponentDocs.Command

/-- Files and directories with all that is below them. Links are passed over. -/
partial def loadEntries (found : Array IO.FS.DirEntry) : IO (List (String × FileTree)) :=
  found.toList.filterMapM fun entry => do
    match (← entry.path.symlinkMetadata).type with
    | .dir => return some (entry.fileName, .directory (← loadEntries (← entry.path.readDir)))
    | .file => return some (entry.fileName, .file (← IO.FS.readBinFile entry.path))
    | _ => return none

/-- The working directory with all that is below it. Of the directories that lead to it
nothing else is seen. -/
def loadWorkspace : IO Workspace := do
  let directory ← IO.currentDir
  let home := directory.components.filter fun name => name ≠ ""
  let content := FileTree.directory (← loadEntries (← directory.readDir))
  return { tree := home.foldr (fun name inner => .directory [(name, inner)]) content, home }

/-- All bytes that are left in a stream. -/
partial def readAll (stream : IO.FS.Stream) (bytes : ByteArray) : IO ByteArray := do
  let chunk ← stream.read 65536
  if chunk.isEmpty then return bytes else readAll stream (bytes ++ chunk)

def saveChange : Path × Option ByteArray → IO Unit
  | (path, some content) => IO.FS.writeBinFile path.text content
  | (path, none) => IO.FS.createDirAll path.text

def runProgram (arguments : List String) : IO UInt32 := do
  let source := origin arguments
  let input ← if source = .standardInput then readAll (← IO.getStdin) .empty else pure .empty
  let before ← if source = .files then loadWorkspace else pure { tree := .empty, home := [] }
  let outcome := run arguments (← IO.getEnv "RUST_LOG") input before
  (before.changes ⟨"/"⟩ outcome.workspace).forM saveChange
  (← IO.getStdout).write outcome.output
  outcome.log.forM fun event => IO.eprintln event.line
  IO.eprint outcome.report
  return outcome.exitCode

end ComponentDocs.Command

def main (arguments : List String) : IO UInt32 := ComponentDocs.Command.runProgram arguments
