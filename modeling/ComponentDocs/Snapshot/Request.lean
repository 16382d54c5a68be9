import ComponentDocs.Snapshot.OfText
import ComponentDocs.Snapshot.Shapes

/-! Requests in either of two forms: an object with a `component`, or the snapshot of
a component on its own. -/
namespace ComponentDocs

open Snapshot (ReadError)

/-- An object with a `component` is a request; anything else is read as a component. -/
def Json.isWrapped : Json → Bool
  | .object members => (get? "component" members).isSome
  | _ => false

namespace Request

def ofJson (json : Json) : Except ReadError Request :=
  (if json.isWrapped then Request.shape.ofJson .parsed json
    else (Component.shape.ofJson .parsed json).map ofComponent).mapError .mismatch

/-- Reads a request by way of a JSON value. -/
def ofText (text : String) : Except ReadError Request :=
  match Json.parse text with
  | .error fault => .error (.fault fault)
  | .ok json => ofJson json

end Request

end ComponentDocs
