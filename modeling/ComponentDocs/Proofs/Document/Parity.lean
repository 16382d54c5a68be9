import ComponentDocs.Proofs.Document.Grammar

/-! Both formats of a document say the same. The compact XML is the image of the JSON under
a translation that knows nothing of documents but the names of list items. -/
namespace ComponentDocs

open Markup (Node)

namespace Json

mutual

/-- A JSON value as the element `name`. Members keep their names and their order; the items
of a list stand under the singular of its name; a null is empty. -/
def image (name : String) : Json → Node
  | .null => .leaf name ""
  | .bool value => .leaf name (if value then "true" else "false")
  | .number value => .leaf name (String.ofList value.print)
  | .string text => .leaf name text
  | .array items => .element name (imageItems (singular name) items)
  | .object members => .element name (imageMembers members)

def imageItems (item : String) : List Json → List Node
  | [] => []
  | value :: items => value.image item :: imageItems item items

def imageMembers : List (String × Json) → List Node
  | [] => []
  | (name, value) :: members => value.image name :: imageMembers members

end

theorem imageItems_eq_map (item : String) (items : List Json) :
    imageItems item items = items.map (image item) := by
  induction items with
  | nil => rfl
  | cons value items ih => simp only [imageItems, List.map_cons, ih]

theorem imageMembers_eq_map (members : Members) :
    imageMembers members = members.map fun member => member.2.image member.1 := by
  induction members with
  | nil => rfl
  | cons member members ih => simp only [imageMembers, List.map_cons, ih]

end Json

theorem Content.image_json {levels : Nat} {name : String} {content : Content}
    (proper : content.Proper levels name) :
    content.json.image name = content.element none name := by
  induction proper with
  | text | missing | flag => rfl
  | count => rfl
  | record _ _ _ _ ih =>
    simp only [json, Json.image, Json.imageMembers_eq_map, jsonMembers_eq_map, List.map_map, element,
      nodes_record]
    exact congrArg _ (List.map_congr_left fun member inside => ih member inside)
  | list _ _ ih =>
    simp only [json, Json.image, Json.imageItems_eq_map, jsonItems_eq_map, List.map_map, element,
      nodes_list]
    exact congrArg _ (List.map_congr_left fun content inside => ih content inside)

namespace Request

theorem parse_text_json (request : Request) (options : Options) :
    Json.parse (String.ofList (request.text .json options)) = .ok request.content.json :=
  Json.parse_print request.content_proper.plain options.indent

theorem read_text_xml (request : Request) (declares : Bool) :
    Markup.read (request.text .xml { xmlDeclaration := declares }) =
      some (declares, request.content.element none "extension") := by
  rw [Markup.read_eq_some_iff]
  exact ⟨request.root_named none, request.text_xml_compact declares⟩

/-- For every request and all options, the JSON document is one object, and the compact XML
document is the image of that object as the element `extension`. -/
theorem formats_agree (request : Request) (options : Options) (declares : Bool) :
    ∃ json xml members,
      request.render .json options = .ok (Sink.bytesOf json) ∧
      Json.parse (String.ofList json) = .ok (.object members) ∧
      request.render .xml { xmlDeclaration := declares } = .ok (Sink.bytesOf xml) ∧
      Markup.read xml = some (declares, (Json.object members).image "extension") := by
  refine ⟨_, _, _, request.render_eq .json options, request.parse_text_json options,
    request.render_eq .xml _, ?_⟩
  rw [request.read_text_xml declares]
  exact congrArg _ (congrArg _ (Content.image_json request.content_proper).symm)

end Request

end ComponentDocs
