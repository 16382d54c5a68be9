import ComponentDocs.Json.Writer
import ComponentDocs.Markup.Writer

/-! Formats, options and the renderers for them. -/
namespace ComponentDocs

/-- The formats of a document. The first is the one used unless another is asked for. -/
inductive Format
  | xml
  | json
deriving DecidableEq

instance : Inhabited Format := ⟨.xml⟩

/-- A format is spelled as the extension of its files. -/
instance : Vocabulary Format where
  words := [.xml, .json]
  name
    | .xml => "xml"
    | .json => "json"

/-- What can go wrong when a document is asked for or written. -/
inductive DocumentError
  | sink (failure : Failure)
  | unknownCategory (text : String)
  | unknownFormat (text : String)
deriving DecidableEq

def DocumentError.message : DocumentError → String
  | .sink failure => "failed to write documentation: " ++ failure.message
  | .unknownCategory text => "unknown extension category: " ++ text
  | .unknownFormat text => "unknown format: " ++ text ++ ". Use xml or json"

def Category.ofText (text : String) : Except DocumentError Category :=
  match Vocabulary.parse? text with
  | some category => .ok category
  | none => .error (.unknownCategory text)

def Format.ofText (text : String) : Except DocumentError Format :=
  match Vocabulary.parse? text with
  | some format => .ok format
  | none => .error (.unknownFormat text)

/-- `indent` is the number of blanks per level, absent for a document on one line.
The declaration concerns XML alone. -/
structure Options where
  indent : Option Nat := none
  xmlDeclaration : Bool := false
deriving DecidableEq

/-- A writer of one of the formats. -/
inductive Renderer
  | xml (writer : Markup.DocumentWriter)
  | json (writer : Json.DocumentWriter)

namespace Renderer

def create (format : Format) (options : Options) (sink : Sink) : Renderer :=
  match format with
  | .xml => .xml
      { declares := options.xmlDeclaration
        margin := options.indent.map fun width => { width }
        sink }
  | .json => .json { layout := options.indent, sink }

def sink : Renderer → Sink
  | .xml writer => writer.sink
  | .json writer => writer.sink

def log : Renderer → List Log.Event
  | .xml writer => writer.log
  | .json writer => writer.log

/-- The renderer as it is, over another sink. -/
def withSink (sink : Sink) : Renderer → Renderer
  | .xml writer => .xml { writer with sink }
  | .json writer => .json { writer with sink }

def write (part : Section) : Renderer → Except Failure Unit × Renderer
  | .xml writer => let outcome := writer.write part; (outcome.1, .xml outcome.2)
  | .json writer => let outcome := writer.write part; (outcome.1, .json outcome.2)

def flush : Renderer → Except Failure Unit × Renderer
  | .xml writer => let outcome := writer.flush; (outcome.1, .xml outcome.2)
  | .json writer => let outcome := writer.flush; (outcome.1, .json outcome.2)

def note (event : Log.Event) : Renderer → Renderer
  | .xml writer => .xml (writer.note event)
  | .json writer => .json (writer.note event)

def writer : Writer Renderer Failure :=
  ⟨write, flush, note, fun failure => (DocumentError.sink failure).message⟩

def document (request : Request) (renderer : Renderer) : Except Failure Unit × Renderer :=
  writer.document request renderer

end Renderer

/-- The whole document of a request, in memory, and what writing it tells the log. -/
def Request.renderNoting (format : Format) (options : Options) (request : Request) :
    Except Failure ByteArray × List Log.Event :=
  match (Renderer.create format options {}).document request with
  | (.ok (), renderer) => (.ok renderer.sink.taken, renderer.log)
  | (.error failure, renderer) => (.error failure, renderer.log)

def Request.render (format : Format) (options : Options) (request : Request) :
    Except Failure ByteArray :=
  (request.renderNoting format options).1

end ComponentDocs
