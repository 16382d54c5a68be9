import ComponentDocs.Document.Renderer
import ComponentDocs.Files.Pattern
import ComponentDocs.Files.Tree
import ComponentDocs.Snapshot.Mismatch

/-! Why a run fails, and the report of it. -/
namespace ComponentDocs.Command

/-- Where a snapshot comes from. -/
inductive Source
  | standardInput
  | file (path : Path)
deriving DecidableEq

/-- Why there is no text to read. -/
inductive ReadFault
  | access (error : FileError)
  | notUnicode
deriving DecidableEq

def ReadFault.message : ReadFault → String
  | .access error => error.message
  | .notUnicode => "stream did not contain valid UTF-8"

inductive RunError
  | noOutput
  | outputDirectory (path : Path) (error : FileError)
  | invalidPattern (text : String) (error : PatternError)
  | unreadable (source : Source) (fault : ReadFault)
  | unsuitable (source : Source) (error : Snapshot.ReadError)
  | unrendered (source : Source) (failure : Failure)
  | unwritten (path : Path) (error : FileError)

namespace RunError

def message : RunError → String
  | .noOutput => "--output is required when files are given"
  | .outputDirectory path _ => "failed to create output directory: " ++ path.text
  | .invalidPattern text _ => "invalid glob pattern: " ++ text
  | .unreadable .standardInput _ => "failed to read stdin"
  | .unreadable (.file path) _ => "failed to read " ++ path.text
  | .unsuitable .standardInput _ => "invalid component snapshot on stdin"
  | .unsuitable (.file path) _ => "invalid component snapshot in " ++ path.text
  | .unrendered .standardInput failure => (DocumentError.sink failure).message
  | .unrendered (.file path) _ => "failed to render " ++ path.text
  | .unwritten path _ => "failed to write " ++ path.text

/-- What is behind a failure, the nearest cause first. -/
def causes : RunError → List String
  | .noOutput => []
  | .outputDirectory _ error => [error.message]
  | .invalidPattern _ error => [error.message]
  | .unreadable _ fault => [fault.message]
  | .unsuitable _ error => [error.message]
  | .unrendered .standardInput failure => [failure.message]
  | .unrendered (.file _) failure => [(DocumentError.sink failure).message, failure.message]
  | .unwritten _ error => [error.message]

def indented (text : String) : String :=
  String.ofList <| ("    ".toList ++ text.toList).flatMap fun c =>
    if c = '\n' then '\n' :: "    ".toList else [c]

/-- One cause of several, with its position. Further lines begin below the text, not below the
number. -/
def numbered (position : Nat) (text : String) : String :=
  String.ofList <| ((toString position).toList.leftpad 5 ' ' ++ ": ".toList ++ text.toList).flatMap
    fun c => if c = '\n' then '\n' :: List.replicate 7 ' ' else [c]

/-- The report: the failure, and in a paragraph of its own what is behind it. -/
def report (error : RunError) : String :=
  "Error: " ++ error.message ++ "\n" ++
    match error.causes with
    | [] => ""
    | [cause] => "\nCaused by:\n" ++ indented cause ++ "\n"
    | causes => "\nCaused by:\n" ++ String.join (causes.mapIdx fun position cause =>
        numbered position cause ++ "\n")

end RunError

end ComponentDocs.Command
