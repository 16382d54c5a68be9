import ComponentDocs.Json.Printer
import ComponentDocs.Json.Reader
import ComponentDocs.Text.Quoted

/-! Why a well-formed JSON value is no snapshot, or no part of one. -/
namespace ComponentDocs.Snapshot

/-- What stands where something else should. -/
inductive Found
  | null
  | bool (value : Bool)
  | number (value : Json.Number)
  | text (value : String)
  | list
  | object

namespace Found

def ofJson : Json → Found
  | .null => .null
  | .bool value => .bool value
  | .number value => .number value
  | .string value => .text value
  | .array _ => .list
  | .object _ => .object

def describe : Found → String
  | .null => "null"
  | .bool value => "boolean `" ++ toString value ++ "`"
  | .number (.float bits) =>
    "floating point `" ++ String.ofList (Json.Number.print (.float bits)) ++ "`"
  | .number value => "integer `" ++ String.ofList value.print ++ "`"
  | .text value => "string " ++ Text.quoted value
  | .list => "sequence"
  | .object => "map"

end Found

inductive Mismatch
  | invalidType (found : Found) (expected : String)
  | invalidValue (found : Found) (expected : String)
  | invalidLength (length : Nat) (expected : String)
  | missingField (name : String)
  | duplicateField (name : String)
  | unknownVariant (name : String) (known : List String)

namespace Mismatch

/-- Names in backquotes: two are joined by `or`, more are listed. -/
def alternatives : List String → String
  | [] => ""
  | [only] => "`" ++ only ++ "`"
  | [first, second] => "`" ++ first ++ "` or `" ++ second ++ "`"
  | names => "one of " ++ String.intercalate ", " (names.map fun name => "`" ++ name ++ "`")

def message : Mismatch → String
  | .invalidType found expected =>
    "invalid type: " ++ found.describe ++ ", expected " ++ expected
  | .invalidValue found expected =>
    "invalid value: " ++ found.describe ++ ", expected " ++ expected
  | .invalidLength length expected =>
    "invalid length " ++ toString length ++ ", expected " ++ expected
  | .missingField name => "missing field `" ++ name ++ "`"
  | .duplicateField name => "duplicate field `" ++ name ++ "`"
  | .unknownVariant name known =>
    "unknown variant `" ++ name ++ "`, expected " ++ alternatives known

/-- A JSON value of the wrong type. -/
def wrongType (json : Json) (expected : String) : Mismatch :=
  .invalidType (.ofJson json) expected

/-- A count with its noun. -/
def counted (count : Nat) : String :=
  if count = 1 then "1 element" else toString count ++ " elements"

end Mismatch

/-- Why a text is no snapshot: it is not well-formed, or its value does not suit. -/
inductive ReadError
  | fault (fault : Json.Fault)
  | mismatch (mismatch : Mismatch)

/-- The three classes of reading errors: malformed, too short, unsuitable. -/
inductive ReadErrorClass
  | malformed
  | truncated
  | unsuitable
deriving DecidableEq

namespace ReadError

def message : ReadError → String
  | .fault found => found.message
  | .mismatch found => found.message

def errorClass : ReadError → ReadErrorClass
  | .fault found => if found.cause.isEnd then .truncated else .malformed
  | .mismatch _ => .unsuitable

end ReadError

end ComponentDocs.Snapshot
