import ComponentDocs.Json.Basic
import ComponentDocs.Markup.Event

/-! What a section of a document is to show, whatever the format: a tree of texts, flags, counts,
records and lists. No writer knows of it. For either format it says what a writer has to come to. -/
namespace ComponentDocs

/-- `missing` is a text that is absent but has its place. The items of a list all
stand under one name, in the formats that name them. -/
inductive Content
  | text (value : String)
  | missing
  | flag (value : Bool)
  | count (value : Nat)
  | record (members : List (String × Content))
  | list (item : String) (items : List Content)

namespace Content

def ofOption : Option String → Content
  | some value => .text value
  | none => .missing

def texts (item : String) (values : List String) : Content :=
  .list item (values.map .text)

mutual

def json : Content → Json
  | .text value => .string value
  | .missing => .null
  | .flag value => .bool value
  | .count value => .ofNat value
  | .record members => .object (jsonMembers members)
  | .list _ items => .array (jsonItems items)

def jsonMembers : List (String × Content) → Json.Members
  | [] => []
  | (name, content) :: members => (name, content.json) :: jsonMembers members

def jsonItems : List Content → List Json
  | [] => []
  | content :: items => content.json :: jsonItems items

end

mutual

/-- Content as the element `name`. A leaf holds one text, also when it is empty or
absent; so does a list without items. -/
def events (name : String) : Content → List Markup.Event
  | .text value => Markup.leaf name value
  | .missing => Markup.leaf name ""
  | .flag value => Markup.leaf name (if value then "true" else "false")
  | .count value => Markup.leaf name (String.ofList (Nat.toDigits 10 value))
  | .record members => .start name :: (memberEvents members ++ [.finish])
  | .list _ [] => Markup.leaf name ""
  | .list item (first :: items) => .start name :: (itemEvents item (first :: items) ++ [.finish])

def memberEvents : List (String × Content) → List Markup.Event
  | [] => []
  | (name, content) :: members => content.events name ++ memberEvents members

def itemEvents (item : String) : List Content → List Markup.Event
  | [] => []
  | content :: items => content.events item ++ itemEvents item items

end

end Content

end ComponentDocs
