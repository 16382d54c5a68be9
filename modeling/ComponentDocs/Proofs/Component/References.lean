import ComponentDocs.Proofs.Document.Lookup

/-! Services that properties refer to. A reference that the name of its property does not resolve
falls back to placeholders beside the class, and both documents show what each reference comes to. -/
namespace ComponentDocs

namespace ServiceApi

/-- The names of the coordinates in a document. -/
def keys : List String := ["className", "groupId", "artifactId", "version"]

def coordinates (api : ServiceApi) : List String :=
  [api.className, api.groupId, api.artifactId, api.version]

end ServiceApi

namespace PropertyDescriptor

/-- The property refers to a service, and nothing is known under its own name. -/
def fallsBack (services : PropertyServices) (property : PropertyDescriptor) : Bool :=
  property.controllerServiceDefinition.isSome && (services.find? property.name).isNone

/-- The coordinates of the service that a property refers to. -/
def coordinates (services : PropertyServices) (property : PropertyDescriptor) : List String :=
  match property.controllerServiceDefinition with
  | none => []
  | some className =>
    if property.fallsBack services then [className, "unknown", "unknown", "unknown"]
    else (services.find? property.name).toList.flatMap ServiceApi.coordinates

theorem coordinates_view (services : PropertyServices) (property : PropertyDescriptor) :
    (property.view services).service.toList.flatMap ServiceApi.coordinates =
      property.coordinates services := by
  rcases reference : property.controllerServiceDefinition with _ | className <;>
    rcases found : services.find? property.name with _ | api <;>
      simp [coordinates, fallsBack, view, ServiceApi.coordinates, reference, found]

end PropertyDescriptor

/-- The names and the coordinates that a property of a JSON document has. -/
def Json.reference (property : Json) : List Json × List Json :=
  (property.under "name",
    (property.under "controllerServiceDefinition").flatMap fun service => ServiceApi.keys.flatMap service.under)

def Json.references (document : Json) : List (List Json × List Json) :=
  ((document.under "properties").flatMap items).map reference

/-- The names and the coordinates that a property of an XML document has. -/
def Markup.Node.reference (property : Markup.Node) : List Markup.Node × List Markup.Node :=
  (property.under "name",
    (property.under "controllerServiceDefinition").flatMap fun service => ServiceApi.keys.flatMap service.under)

def Markup.Node.references (root : Markup.Node) : List (List Markup.Node × List Markup.Node) :=
  ((root.under "properties").flatMap (under "property")).map reference

open Content (listed ofServiceApi present)
open Markup (Margin Node inner)

namespace PropertyView

theorem slots_names_nodup (property : PropertyView) : (property.slots.map Prod.fst).Nodup := by
  simp only [slots, List.map_cons, List.map_nil]
  decide

theorem values_name (property : PropertyView) :
    Json.values "name" (present property.slots) = [.text property.name] :=
  Content.values_present property.slots_names_nodup List.mem_cons_self

theorem values_service (property : PropertyView) :
    Json.values "controllerServiceDefinition" (present property.slots) =
      (property.service.map ofServiceApi).toList :=
  Content.values_present property.slots_names_nodup (by simp [slots])

theorem reference_json (property : PropertyView) :
    property.content.json.reference =
      ([.string property.name], (property.service.toList.flatMap ServiceApi.coordinates).map .string) := by
  simp only [Json.reference, content, Content.under_json, values_name, values_service]
  cases property.service <;> rfl

theorem reference_xml (property : PropertyView) (margin : Option Margin) :
    (property.content.element margin "property").reference =
      ([Node.leaf "name" property.name],
        List.zipWith Node.leaf ServiceApi.keys (property.service.toList.flatMap ServiceApi.coordinates)) := by
  simp only [Node.reference, content, Content.under_element, values_name, values_service]
  cases property.service with
  | none => rfl
  | some api =>
    simp only [Option.map_some, Option.toList_some, List.map_singleton, List.flatMap_singleton,
      ServiceApi.keys, ofServiceApi, Content.under_element]
    rfl

end PropertyView

namespace Request

theorem values_properties (request : Request) :
    Json.values "properties" (present request.view.slots) =
      (listed "property" PropertyView.content request.view.properties).toList :=
  Content.values_present request.view.slots_names_nodup (by simp [View.slots])

theorem references_json (request : Request) :
    request.content.json.references = request.component.properties.map fun property =>
      ([.string property.name], (property.coordinates request.propertyServices).map .string) := by
  have shown : request.content.json.references = request.view.properties.map fun property =>
      property.content.json.reference := by
    rw [Json.references, content, View.content, Content.under_json, values_properties]
    cases request.view.properties with
    | nil => rfl
    | cons first others =>
      simp only [listed, Option.toList_some, List.map_singleton, List.flatMap_singleton, Content.items_json,
        List.map_map, Function.comp_def]
  rw [shown, view]
  simp only [List.map_map, Function.comp_def, PropertyView.reference_json, PropertyDescriptor.coordinates_view]
  rfl

theorem references_xml (request : Request) (options : Options) :
    (request.content.element (rootMargin options) "extension").references =
      request.component.properties.map fun property =>
        ([Node.leaf "name" property.name],
          List.zipWith Node.leaf ServiceApi.keys (property.coordinates request.propertyServices)) := by
  have shown : (request.content.element (rootMargin options) "extension").references =
      request.view.properties.map fun property =>
        (property.content.element (inner (inner (rootMargin options))) "property").reference := by
    rw [Node.references, content, View.content, Content.under_element, values_properties]
    cases request.view.properties with
    | nil => rfl
    | cons first others =>
      simp only [listed, Option.toList_some, List.map_singleton, List.flatMap_singleton]
      rw [Content.under_element_list _ _ _ (mt List.map_eq_nil_iff.mp (List.cons_ne_nil _ _))]
      simp only [List.map_map, Function.comp_def]
  rw [shown, view]
  simp only [List.map_map, Function.comp_def, PropertyView.reference_xml, PropertyDescriptor.coordinates_view]
  rfl

end Request

end ComponentDocs
