import ComponentDocs.Document.Renderer
import ComponentDocs.Text.Alphanumeric

/-! The names of the files that documents are kept in. -/
namespace ComponentDocs

/-- The characters that a file name takes over from a class name. -/
def isKept (c : Char) : Bool := Text.isAlphanumeric c || c = '.' || c = '-' || c = '_'

/-- The name of a document without its extension. Characters that are not kept become
underscores, and a component without a class name is called `extension`. -/
def documentName (className : String) : String :=
  if className.isEmpty then "extension"
  else className.map fun c => if isKept c then c else '_'

/-- The file name of a document: its name, and its format as the extension. -/
def Request.fileName (format : Format) (request : Request) : String :=
  documentName request.component.className ++ "." ++ Vocabulary.name format

end ComponentDocs
