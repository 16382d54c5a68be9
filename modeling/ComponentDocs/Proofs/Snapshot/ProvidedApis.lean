import ComponentDocs.Proofs.Document.Distinct
import ComponentDocs.Proofs.Snapshot.CategoryTag

/-! The interfaces of a controller service: declared by the component, or passed with the request.
A list is read in the same way in both places, and the document does not tell where it stood. -/
namespace ComponentDocs

open Json (Members values)
open Snapshot

namespace Snapshot

theorem ofJson_text (origin origin' : Origin) (json : Json) :
    Shape.text.ofJson origin json = Shape.text.ofJson origin' json := by
  cases json <;> simp only [Shape.ofJson]

theorem gatherSlot_text (origin origin' : Origin) (default : Option String) (found : List Json) :
    Fields.gatherSlot .text default origin found = Fields.gatherSlot .text default origin' found := by
  rcases found with _ | ⟨json, _ | ⟨second, rest⟩⟩
  · rfl
  · rw [Fields.gatherSlot, Fields.gatherSlot, ofJson_text origin origin']
  · rfl

theorem checkRest_of_origin {origin : Origin} (origin' : Origin) {size : Nat} {rest : List Json}
    (checked : checkRest origin size rest = .ok ()) : checkRest origin' size rest = .ok () := by
  cases rest with
  | nil => rfl
  | cons => cases checked

end Snapshot

/-- An interface is accepted wherever it stands, or nowhere. -/
theorem ServiceApi.of_origin {origin : Origin} (origin' : Origin) {json : Json} {api : ServiceApi}
    (read : shape.ofJson origin json = .ok api) : shape.ofJson origin' json = .ok api := by
  rw [shape, Shape.ofJson_convert, map_eq_ok_iff] at read ⊢
  obtain ⟨parts, record, built⟩ := read
  refine ⟨parts, ?_, built⟩
  cases json with
  | object members =>
    rw [Shape.ofJson_record_eq_ok_iff] at record ⊢
    simpa only [Fields.need, Fields.gather, gatherSlot_text origin origin'] using record
  | array items =>
    rw [Shape.ofJson_record_items, bind_eq_ok_iff] at record ⊢
    obtain ⟨⟨found, rest⟩, taken, closed⟩ := record
    obtain ⟨⟨⟩, checked, rfl⟩ := map_eq_ok_iff.mp closed
    refine ⟨(found, rest), ?_, map_eq_ok_iff.mpr ⟨(), checkRest_of_origin origin' checked, rfl⟩⟩
    simpa only [Fields.need, Fields.ofItems, ofJson_text origin origin'] using taken
  | null | bool | number | string =>
    simp only [Shape.ofJson] at record
    cases record

/-- So is a list of interfaces. -/
theorem ServiceApi.list_of_origin {origin : Origin} (origin' : Origin) {json : Json} {apis : List ServiceApi}
    (read : (Shape.list shape).ofJson origin json = .ok apis) :
    (Shape.list shape).ofJson origin' json = .ok apis := by
  cases json with
  | array items =>
    simp only [Shape.ofJson, mapM_eq_ok_iff] at read ⊢
    exact read.imp fun _ _ => of_origin origin'
  | null | bool | number | string | object =>
    simp only [Shape.ofJson] at read
    cases read

/-- What is read from the values under `providedServiceApis`. -/
def ServiceApi.gather (origin : Origin) (found : List Json) : Option (List ServiceApi) :=
  Fields.gatherSlot (.list ServiceApi.shape) (some []) origin found

theorem Kind.ofJson_service_iff {tag : String} {others : Members} {kind : Kind} :
    cases.ofJson tag "CONTROLLER_SERVICE" (.object others) = .ok kind ↔
      ∃ apis, ServiceApi.gather .setAside (values "providedServiceApis" others) = some apis ∧
        kind = .controllerService ⟨apis⟩ := by
  have other : "CONTROLLER_SERVICE" ≠ "PROCESSOR" := by decide
  rw [cases, Cases.ofJson, if_neg other, Cases.ofJson, if_pos rfl, ControllerServiceMetadata.shape,
    Shape.ofJson_convert, map_map, map_eq_ok_iff]
  constructor
  · rintro ⟨⟨apis, ⟨⟩⟩, record, rfl⟩
    obtain ⟨_, gathered, same⟩ := Option.bind_eq_some_iff.mp (Shape.ofJson_record_eq_ok_iff.mp record)
    obtain ⟨_, -, same⟩ := Option.map_eq_some_iff.mp same
    cases same
    exact ⟨_, gathered, rfl⟩
  · rintro ⟨apis, gathered, rfl⟩
    refine ⟨(apis, ()), Shape.ofJson_record_eq_ok_iff.mpr ?_, rfl⟩
    exact Option.bind_eq_some_iff.mpr ⟨apis, gathered, rfl⟩

namespace Component

variable {origin : Origin} {first second : Members} {component : Component}

/-- A controller service, and what is read when it declares something else. -/
theorem read_declaring (read : shape.ofJson origin (.object first) = .ok component)
    (service : component.category = .controllerService)
    (alike : ∀ key, key ≠ "providedServiceApis" → values key second = values key first) :
    (∃ declared, component.kind = .controllerService ⟨declared⟩ ∧
      ServiceApi.gather .setAside (values "providedServiceApis" first) = some declared) ∧
    ∀ apis, ServiceApi.gather .setAside (values "providedServiceApis" second) = some apis →
      shape.ofJson origin (.object second) = .ok { component with kind := .controllerService ⟨apis⟩ } := by
  rw [shape, Shape.ofJson_convert] at read ⊢
  obtain ⟨⟨own, kind⟩, object, rfl⟩ := map_eq_ok_iff.mp read
  obtain ⟨gathered, case, others, tagged, kindRead⟩ := Shape.ofJson_extended_eq_ok_iff.mp object
  obtain ⟨tag, only, isCase, rfl⟩ := caseOfMembers_eq_ok_iff.mp tagged
  have service : kind.category = .controllerService := service
  obtain rfl : case = "CONTROLLER_SERVICE" := by
    rw [Kind.category_of_case kindRead, service]
    rfl
  -- Neither the tag nor the interfaces are fields of every component.
  rw [Json.values_filter fun key => !Fields.has _ key] at only
  rw [Kind.ofJson_service_iff, Json.values_without, Json.values_filter fun key => !Fields.has _ key] at kindRead
  obtain ⟨declared, found, rfl⟩ := kindRead
  refine ⟨⟨declared, rfl, found⟩, fun apis offered =>
    map_eq_ok_iff.mpr ⟨(own, .controllerService ⟨apis⟩), ?_, rfl⟩⟩
  refine Shape.ofJson_extended_eq_ok_iff.mpr ⟨?_, "CONTROLLER_SERVICE", _, caseOfMembers_eq_ok_iff.mpr
    ⟨tag, ?_, isCase, rfl⟩, Kind.ofJson_service_iff.mpr ⟨apis, ?_, rfl⟩⟩
  · refine Fields.gather_keeps _ (Fields.keeps_of_values fun key inside => alike key ?_) gathered
    rintro rfl
    revert inside
    decide
  · rw [Json.values_filter fun key => !Fields.has _ key]
    exact (alike "type" (by decide)).trans only
  · rw [Json.values_without, Json.values_filter fun key => !Fields.has _ key]
    exact offered

end Component

namespace Request

theorem ofJson_shape_iff {members : Members} {request : Request} :
    shape.ofJson .parsed (.object members) = .ok request ↔
      Fields.gatherSlot Component.shape none .parsed (values "component" members) = some request.component ∧
      ServiceApi.gather .parsed (values "providedServiceApis" members) = some request.providedServiceApis ∧
      Fields.gatherSlot (.convert PropertyServices.ofList (.table ServiceApi.shape)) (some .empty) .parsed
        (values "propertyServices" members) = some request.propertyServices := by
  have apart : values "propertyServices" (Json.without "providedServiceApis" (Json.without "component" members)) =
      values "propertyServices" members := by
    rw [Json.values_without, if_neg (by decide), Json.values_without, if_neg (by decide)]
  have apart' : values "providedServiceApis" (Json.without "component" members) =
      values "providedServiceApis" members := by
    rw [Json.values_without, if_neg (by decide)]
  rw [shape, Shape.ofJson_convert, map_eq_ok_iff]
  simp only [Shape.ofJson_record_eq_ok_iff, Fields.need, Fields.or, Fields.gather, apart, apart',
    ServiceApi.gather, Option.bind_eq_some_iff, Option.map_eq_some_iff]
  constructor
  · rintro ⟨_, ⟨component, held, _, ⟨passed, offered, _, ⟨services, resolved, _, -, rfl⟩, rfl⟩, rfl⟩, rfl⟩
    exact ⟨held, offered, resolved⟩
  · rintro ⟨held, offered, resolved⟩
    exact ⟨_, ⟨_, held, _, ⟨_, offered, _, ⟨_, resolved, (), trivial, rfl⟩, rfl⟩, rfl⟩, rfl⟩

theorem ofJson_wrapped {members : Members} {component : Json} (held : values "component" members = [component]) :
    ofJson (.object members) = (shape.ofJson .parsed (.object members)).mapError .mismatch := by
  have wrapped : (Json.object members).isWrapped = true := by
    rw [Json.isWrapped, Json.get?_eq_head?, held]
    rfl
  rw [ofJson, if_pos wrapped]

/-- What is displayed decides on the document. -/
theorem render_of_view {first second : Request} (same : first.view = second.view) (format : Format)
    (options : Options) : first.render format options = second.render format options := by
  rw [render_eq_iff, content, content, same]

/-- What the component of a request declares to provide has moved to the request. The component may
have any list of interfaces in its place, or none. -/
structure MovesApis (items : List Json) (members others first second : Members) : Prop where
  held : values "component" members = [.object first]
  declared : values "providedServiceApis" first = [.array items]
  held' : values "component" others = [.object second]
  left : ∃ apis, ServiceApi.gather .setAside (values "providedServiceApis" second) = some apis
  within : ∀ key, key ≠ "providedServiceApis" → values key second = values key first
  passed : values "providedServiceApis" others = [.array items]
  beside : ∀ key, key ≠ "component" → key ≠ "providedServiceApis" → values key others = values key members

/-- A list of interfaces is passed with a request, whatever was passed before. -/
structure PassesApis (members others : Members) : Prop where
  held : ∃ component, values "component" members = [component]
  passed : ∃ list, values "providedServiceApis" others = [list] ∧
    ∃ apis, (Shape.list ServiceApi.shape).ofJson .parsed list = .ok apis
  beside : ∀ key, key ≠ "providedServiceApis" → values key others = values key members

variable {members others first second : Members} {request : Request}

/-- The list of a controller service may as well be passed with the request. -/
theorem render_moved {items : List Json} (read : ofJson (.object members) = .ok request)
    (service : request.component.category = .controllerService) (unpassed : request.providedServiceApis = [])
    (filled : items ≠ []) (moves : MovesApis items members others first second) :
    ∃ request', ofJson (.object others) = .ok request' ∧
      ∀ format options, request'.render format options = request.render format options := by
  obtain ⟨held, declared, held', ⟨apis, left⟩, within, passed, beside⟩ := moves
  rw [ofJson_wrapped held, mapError_eq_ok_iff, ofJson_shape_iff, held] at read
  obtain ⟨readComponent, -, resolved⟩ := read
  rw [Fields.gatherSlot, toOption_eq_some_iff] at readComponent
  obtain ⟨⟨apis', kind, offered⟩, replaced⟩ := Component.read_declaring readComponent service within
  rw [declared, ServiceApi.gather, Fields.gatherSlot, toOption_eq_some_iff] at offered
  have filled' : apis' ≠ [] := by
    rintro rfl
    simp only [Shape.ofJson, mapM_eq_ok_iff] at offered
    cases offered
    exact filled rfl
  let request' : Request :=
    { component := { request.component with kind := .controllerService ⟨apis⟩ }
      providedServiceApis := apis'
      propertyServices := request.propertyServices }
  refine ⟨request', ?_, render_of_view ?_⟩
  · rw [ofJson_wrapped held', mapError_eq_ok_iff, ofJson_shape_iff, held', passed,
      beside "propertyServices" (by decide) (by decide)]
    refine ⟨?_, ?_, resolved⟩
    · rw [Fields.gatherSlot, toOption_eq_some_iff]
      exact replaced apis left
    · rw [ServiceApi.gather, Fields.gatherSlot, toOption_eq_some_iff]
      exact ServiceApi.list_of_origin .parsed offered
  · simp only [request', view, kind, unpassed, if_pos, if_neg filled']

/-- A list that is passed with a component of any other kind makes no difference. -/
theorem render_passed (read : ofJson (.object members) = .ok request)
    (other : request.component.category ≠ .controllerService) (passes : PassesApis members others) :
    ∃ request', ofJson (.object others) = .ok request' ∧
      ∀ format options, request'.render format options = request.render format options := by
  obtain ⟨⟨component, held⟩, ⟨list, passed, apis, readable⟩, beside⟩ := passes
  have held' : values "component" others = [component] := (beside "component" (by decide)).trans held
  rw [ofJson_wrapped held, mapError_eq_ok_iff, ofJson_shape_iff] at read
  obtain ⟨readComponent, -, resolved⟩ := read
  refine ⟨{ request with providedServiceApis := apis }, ?_, render_of_view ?_⟩
  · rw [ofJson_wrapped held', mapError_eq_ok_iff, ofJson_shape_iff, passed, beside "component" (by decide),
      beside "propertyServices" (by decide)]
    refine ⟨readComponent, ?_, resolved⟩
    rw [ServiceApi.gather, Fields.gatherSlot, toOption_eq_some_iff]
    exact readable
  · rw [Component.category] at other
    simp only [view]
    cases kind : request.component.kind with
    | controllerService metadata =>
      rw [kind] at other
      exact absurd rfl other
    | _ => rfl

end Request

end ComponentDocs
