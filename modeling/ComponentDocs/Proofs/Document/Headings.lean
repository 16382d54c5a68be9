import ComponentDocs.Proofs.Document.Parity
import ComponentDocs.Proofs.Vocabulary

/-! The headings of a document: which sections it has, in which order, and for which
categories. Whether a section is there is told by what the component declares. -/
namespace ComponentDocs

open Markup (Margin Node)
open Vocabulary (name words)

/-- What can stand directly inside the root of a document. -/
inductive Heading
  | name
  | category
  | deprecationNotice
  | description
  | tags
  | properties
  | dynamicProperties
  | supportsSensitiveDynamicProperties
  | relationships
  | dynamicRelationship
  | readsAttributes
  | writesAttributes
  | triggerSerially
  | triggerWhenEmpty
  | triggerWhenAnyDestinationAvailable
  | supportsBatching
  | primaryNodeOnly
  | sideEffectFree
  | defaultSettings
  | stateful
  | restricted
  | inputRequirement
  | systemResourceConsiderations
  | useCases
  | multiProcessorUseCases
  | seeAlso
  | defaultSchedule
  | providedServiceApis
deriving DecidableEq

/-- The words are in canonical order. -/
instance : Vocabulary Heading where
  words := [.name, .category, .deprecationNotice, .description, .tags, .properties,
    .dynamicProperties, .supportsSensitiveDynamicProperties, .relationships,
    .dynamicRelationship, .readsAttributes, .writesAttributes, .triggerSerially,
    .triggerWhenEmpty, .triggerWhenAnyDestinationAvailable, .supportsBatching,
    .primaryNodeOnly, .sideEffectFree, .defaultSettings, .stateful, .restricted,
    .inputRequirement, .systemResourceConsiderations, .useCases, .multiProcessorUseCases,
    .seeAlso, .defaultSchedule, .providedServiceApis]
  name
    | .name => "name"
    | .category => "type"
    | .deprecationNotice => "deprecationNotice"
    | .description => "description"
    | .tags => "tags"
    | .properties => "properties"
    | .dynamicProperties => "dynamicProperties"
    | .supportsSensitiveDynamicProperties => "supportsSensitiveDynamicProperties"
    | .relationships => "relationships"
    | .dynamicRelationship => "dynamicRelationship"
    | .readsAttributes => "readsAttributes"
    | .writesAttributes => "writesAttributes"
    | .triggerSerially => "triggerSerially"
    | .triggerWhenEmpty => "triggerWhenEmpty"
    | .triggerWhenAnyDestinationAvailable => "triggerWhenAnyDestinationAvailable"
    | .supportsBatching => "supportsBatching"
    | .primaryNodeOnly => "primaryNodeOnly"
    | .sideEffectFree => "sideEffectFree"
    | .defaultSettings => "defaultSettings"
    | .stateful => "stateful"
    | .restricted => "restricted"
    | .inputRequirement => "inputRequirement"
    | .systemResourceConsiderations => "systemResourceConsiderations"
    | .useCases => "useCases"
    | .multiProcessorUseCases => "multiProcessorUseCases"
    | .seeAlso => "seeAlso"
    | .defaultSchedule => "defaultSchedule"
    | .providedServiceApis => "providedServiceAPIs"

instance : LawfulVocabulary Heading where
  mem_words word := by cases word <;> decide
  distinct := by decide

namespace Heading

/-- The category that a heading is reserved for. -/
def owner? : Heading → Option Category
  | .relationships | .dynamicRelationship | .readsAttributes | .writesAttributes
  | .triggerSerially | .triggerWhenEmpty | .triggerWhenAnyDestinationAvailable
  | .supportsBatching | .primaryNodeOnly | .sideEffectFree | .defaultSettings => some .processor
  | .providedServiceApis => some .controllerService
  | _ => none

def appliesTo (category : Category) (heading : Heading) : Bool :=
  heading.owner?.all (· = category)

end Heading

namespace Request

/-- Whether a component has something to show under a heading. The name, the category and
the tags are always shown, and a resource consideration only if it names a resource. -/
def shows (request : Request) : Heading → Bool :=
  let component := request.component
  let processor := component.kind.processor?
  fun
  | .name | .category | .tags => true
  | .deprecationNotice => component.deprecationNotice.isSome
  | .description => component.description.isSome
  | .properties => !component.properties.isEmpty
  | .dynamicProperties => !component.dynamicProperties.isEmpty
  | .supportsSensitiveDynamicProperties => component.supportsSensitiveDynamicProperties
  | .relationships => processor.any fun metadata => !metadata.relationships.toList.isEmpty
  | .dynamicRelationship => processor.any fun metadata => metadata.dynamicRelationship.isSome
  | .readsAttributes => processor.any fun metadata => !metadata.readsAttributes.isEmpty
  | .writesAttributes => processor.any fun metadata => !metadata.writesAttributes.isEmpty
  | .triggerSerially => processor.any ProcessorMetadata.triggerSerially
  | .triggerWhenEmpty => processor.any ProcessorMetadata.triggerWhenEmpty
  | .triggerWhenAnyDestinationAvailable =>
    processor.any ProcessorMetadata.triggerWhenAnyDestinationAvailable
  | .supportsBatching => processor.any ProcessorMetadata.supportsBatching
  | .primaryNodeOnly => processor.any ProcessorMetadata.primaryNodeOnly
  | .sideEffectFree => processor.any ProcessorMetadata.sideEffectFree
  | .defaultSettings => processor.any fun metadata => metadata.defaultSettings.isSome
  | .stateful => component.stateful.isSome
  | .restricted => component.restricted.isSome
  | .inputRequirement => component.inputRequirement.isSome
  | .systemResourceConsiderations =>
    component.systemResourceConsiderations.any fun consideration => consideration.resource.isSome
  | .useCases => !component.useCases.isEmpty
  | .multiProcessorUseCases => !component.multiProcessorUseCases.isEmpty
  | .seeAlso => component.seeAlso.any fun related => !related.merged.isEmpty
  | .defaultSchedule => component.defaultSchedule.isSome
  | .providedServiceApis => component.kind.controllerService?.any fun declared =>
    !request.providedServiceApis.isEmpty || !declared.providedServiceApis.isEmpty

def headings (request : Request) : List Heading := words.filter request.shows

end Request

namespace Content

theorem isSome_listed {α : Type} (item : String) (content : α → Content) (items : List α) :
    (listed item content items).isSome = !items.isEmpty := by
  cases items <;> rfl

theorem isSome_held (holds : Bool) : (held holds).isSome = holds := by
  cases holds <;> rfl

theorem present_names (slots : Slots) :
    (present slots).map Prod.fst = (slots.filter fun slot => slot.2.isSome).map Prod.fst := by
  induction slots with
  | nil => rfl
  | cons slot slots ih =>
    obtain ⟨name, _ | content⟩ := slot
    · simpa only [present, List.filter_cons, Option.isSome_none, Bool.false_eq_true, if_false] using ih
    · simp only [present, List.map_cons, List.filter_cons, Option.isSome_some, if_true, ih]

end Content

namespace Request

open Content

private theorem resourceUses_isEmpty (considerations : List SystemResourceConsideration) :
    (!(SystemResourceConsideration.uses considerations).isEmpty) =
      considerations.any fun consideration => consideration.resource.isSome := by
  induction considerations with
  | nil => rfl
  | cons consideration considerations ih =>
    obtain ⟨_ | resource, description⟩ := consideration
    · simpa only [SystemResourceConsideration.uses, List.any_cons, Option.isSome_none,
        Bool.false_or] using ih
    · simp [SystemResourceConsideration.uses]

private theorem seeAlso_isEmpty (request : Request) :
    (!request.view.seeAlso.isEmpty) = request.shows .seeAlso := by
  simp only [view, shows]
  cases request.component.seeAlso with
  | none => rfl
  | some related => simp only [SeeAlso.merged, eraseDups_eq_firstOccurrences, Option.any_some]

private theorem providedApis_isEmpty (request : Request) :
    (!(request.providedApis.getD []).isEmpty) = request.shows .providedServiceApis := by
  simp only [shows, providedApis]
  cases request.component.kind.controllerService? with
  | none => rfl
  | some declared =>
    cases request.providedServiceApis <;> simp

/-- The places of a document are its possible headings in canonical order, and the taken ones
are those under which the component has something to show. -/
theorem slots_headings (request : Request) :
    (request.view.slots.map fun slot => (slot.1, slot.2.isSome)) =
      (words : List Heading).map fun heading => (name heading, request.shows heading) := by
  simp only [View.slots, View.processorSlots, List.map_append, List.map_cons, List.map_nil,
    Option.isSome_some, Option.isSome_map, Option.isSome_bind, isSome_listed, isSome_held,
    view_processor, view_providedApis, seeAlso_isEmpty, providedApis_isEmpty]
  simp only [view, Option.isSome_map, List.isEmpty_map, resourceUses_isEmpty]
  rfl

theorem content_names (request : Request) :
    (present request.view.slots).map Prod.fst = request.headings.map name := by
  have taken := congrArg (fun slots => (slots.filter Prod.snd).map Prod.fst) request.slots_headings
  simpa only [List.filter_map, List.map_map, Function.comp_def, ← present_names, headings] using taken

theorem headings_distinct (request : Request) : (request.headings.map name).Nodup :=
  (List.filter_sublist.map name).nodup LawfulVocabulary.distinct

end Request

namespace Markup.Node

def name? : Node → Option String
  | .character _ => none
  | .element name _ => some name

theorem filterMap_name?_blanks (margin : Option Margin) :
    (blanks margin).filterMap name? = [] := by
  simp only [List.filterMap_eq_nil_iff]
  intro node inside
  obtain ⟨c, -, rfl⟩ := List.mem_map.mp inside
  rfl

theorem filterMap_name?_spaced (margin : Option Margin) (nodes : List Node) :
    (spaced margin nodes).filterMap name? = nodes.filterMap name? := by
  induction nodes with
  | nil => rfl
  | cons node nodes ih =>
    rw [spaced, List.flatMap_cons, List.filterMap_append, List.filterMap_append,
      filterMap_name?_blanks, List.nil_append]
    exact (congrArg _ ih).trans (List.filterMap_append (l := [node])).symm

end Markup.Node

theorem Content.names_nodes (margin : Option Margin) (members : List (String × Content)) :
    ((Content.record members).nodes margin).filterMap Node.name? = members.map Prod.fst := by
  rw [nodes, memberNodes_eq, List.filterMap_append, Node.filterMap_name?_blanks, List.append_nil,
    Node.filterMap_name?_spaced, List.filterMap_map]
  exact congrFun List.filterMap_eq_map members

theorem Content.element_mem_nodes {margin : Option Margin} {members : List (String × Content)}
    {member : String × Content} (inside : member ∈ members) :
    member.2.element (Markup.inner margin) member.1 ∈ (Content.record members).nodes margin := by
  rw [nodes, memberNodes_eq]
  refine List.mem_append_left _ (List.mem_flatMap.mpr ⟨_, List.mem_map_of_mem inside, ?_⟩)
  exact List.mem_append_right _ (List.mem_singleton_self _)

namespace Request

end Request

end ComponentDocs
