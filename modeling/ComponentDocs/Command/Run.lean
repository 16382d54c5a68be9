import ComponentDocs.Command.Arguments
import ComponentDocs.Command.Selection
import ComponentDocs.Document.FileName
import ComponentDocs.Log.Filter
import ComponentDocs.Snapshot.Request

/-! A run of the program, from its arguments to everything it leaves behind. -/
namespace ComponentDocs.Command

open Log (Event Filter)

/-- What a run has brought about so far. -/
structure Session where
  workspace : Workspace
  log : List Event := []

def Session.note (events : List Event) (session : Session) : Session :=
  { session with log := session.log ++ events }

def bareEvent : Event where
  level := .debug
  target := "extdoc"
  message := "input is a bare component snapshot"

def overwritingEvent (path : Path) : Event where
  level := .warn
  target := "extdoc"
  message := "overwriting existing document"
  fields := [("path", path.text)]

def wroteEvent (source output : Path) : Event where
  level := .info
  target := "extdoc"
  message := "wrote document"
  fields := [("source", source.text), ("output", output.text)]

/-- A document together with the name of its file. -/
structure Rendered where
  fileName : String
  content : ByteArray

namespace Invocation

/-- The document of a text, and what is worth noting on the way to it. -/
def documentOfText (invocation : Invocation) (source : Source) (text : String) :
    Except RunError Rendered × List Event :=
  match Json.parse text with
  | .error fault => (.error (.unsuitable source (.fault fault)), [])
  | .ok json =>
    let log := if json.isWrapped then [] else [bareEvent]
    match Request.ofJson json with
    | .error error => (.error (.unsuitable source error), log)
    | .ok request =>
      match request.renderNoting invocation.format invocation.options with
      | (.error failure, told) => (.error (.unrendered source failure), log ++ told)
      | (.ok content, told) => (.ok ⟨request.fileName invocation.format, content⟩, log ++ told)

/-- The document of some bytes, which must be UTF-8. -/
def documentOf (invocation : Invocation) (source : Source) (bytes : ByteArray) :
    Except RunError Rendered × List Event :=
  match String.fromUTF8? bytes with
  | none => (.error (.unreadable source .notUnicode), [])
  | some text => invocation.documentOfText source text

/-- Writes the document of one file into a directory. The document is complete before
the file that it replaces is touched. -/
def documentFile (invocation : Invocation) (directory path : Path) (session : Session) :
    Except RunError Unit × Session :=
  match session.workspace.read path with
  | .error error => (.error (.unreadable (.file path) (.access error)), session)
  | .ok bytes =>
    match invocation.documentOf (.file path) bytes with
    | (.error error, log) => (.error error, session.note log)
    | (.ok document, log) =>
      let output := directory.join document.fileName
      let session := session.note <|
        if session.workspace.contains output then log ++ [overwritingEvent output] else log
      match session.workspace.write output document.content with
      | (.error error, workspace) => (.error (.unwritten output error), { session with workspace })
      | (.ok (), workspace) => (.ok (), { session with workspace }.note [wroteEvent path output])

/-- Writes the documents of all files that the arguments stand for, up to the first
failure. -/
def documentFiles (invocation : Invocation) (session : Session) :
    Except RunError Unit × Session :=
  match invocation.output with
  | none => (.error .noOutput, session)
  | some text =>
    let directory : Path := ⟨text⟩
    match session.workspace.createDirectories directory with
    | (.error error, workspace) =>
      (.error (.outputDirectory directory error), { session with workspace })
    | (.ok (), workspace) =>
      match Selection.ofArguments workspace invocation.files with
      | (.error error, selection) => (.error error, { session with workspace }.note selection.log)
      | (.ok (), selection) =>
        eachStep (invocation.documentFile directory) selection.files
          ({ session with workspace }.note selection.log)

end Invocation

/-- What a run leaves behind: an exit code, the text on standard output, a message or
report, the log and the files. -/
structure Outcome where
  exitCode : UInt32
  output : ByteArray := .empty
  report : String := ""
  log : List Event := []
  workspace : Workspace

namespace Outcome

/-- How a run ends after its last step. -/
def ofSession (result : Except RunError ByteArray) (session : Session) : Outcome :=
  match result with
  | .ok output => { exitCode := 0, output, log := session.log, workspace := session.workspace }
  | .error error =>
    { exitCode := 1, report := error.report, log := session.log, workspace := session.workspace }

end Outcome

/-- Does what is asked for, with a log of everything. -/
def Invocation.perform (invocation : Invocation) (input : ByteArray) (workspace : Workspace) :
    Outcome :=
  if invocation.files.isEmpty then
    let (result, log) := invocation.documentOf .standardInput input
    .ofSession (result.map Rendered.content) { workspace, log }
  else
    let (result, session) := invocation.documentFiles { workspace }
    .ofSession (result.map fun () => .empty) session

/-- The filter that a text asks for; without one that can be read, warnings pass, and in
a verbose run also the steps. -/
def logFilter (filterText : Option String) (verbose : Bool) : Filter :=
  (filterText.bind Filter.ofText?).getD (.upTo (if verbose then .debug else .warn))

/-- Where a run finds its snapshots, if it comes to look for any. -/
inductive Origin
  | nowhere
  | standardInput
  | files
deriving DecidableEq

/-- What must be at hand for a run: all else may be left empty. -/
def origin (arguments : List String) : Origin :=
  match Invocation.ofArguments arguments with
  | .error _ => .nowhere
  | .ok invocation => if invocation.files.isEmpty then .standardInput else .files

/-- Runs the program on its arguments, the text of its log filter, standard input and
the files it can see. -/
def run (arguments : List String) (filterText : Option String) (input : ByteArray)
    (workspace : Workspace) : Outcome :=
  match Invocation.ofArguments arguments with
  | .error .help => { exitCode := 0, output := help.toUTF8, workspace }
  | .error (.misuse error) => { exitCode := 2, report := error.report, workspace }
  | .ok invocation =>
    let outcome := invocation.perform input workspace
    { outcome with
      log := outcome.log.filter (logFilter filterText invocation.verbose).admits }

end ComponentDocs.Command
