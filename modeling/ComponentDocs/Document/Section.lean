import ComponentDocs.Component.Basic

/-! The sections of a document, in canonical order. -/
namespace ComponentDocs

/-- One section with the values of the snapshot that it is about, absent and empty
ones included. `header` and `footer` enclose the others. -/
inductive Section
  | header (component : Component)
  | name (className : String)
  | category (category : Category)
  | deprecationNotice (notice : Option DeprecationNotice)
  | description (text : Option String)
  | tags (tags : List String)
  | properties (properties : List PropertyDescriptor) (services : PropertyServices)
  | dynamicProperties (properties : List DynamicProperty)
  | supportsSensitiveDynamicProperties (supported : Bool)
  | relationships (relationships : RelationshipSet)
  | dynamicRelationship (relationship : Option DynamicRelationship)
  | readsAttributes (attributes : List AttributeDescriptor)
  | writesAttributes (attributes : List AttributeDescriptor)
  | triggerSerially (present : Bool)
  | triggerWhenEmpty (present : Bool)
  | triggerWhenAnyDestinationAvailable (present : Bool)
  | supportsBatching (present : Bool)
  | primaryNodeOnly (present : Bool)
  | sideEffectFree (present : Bool)
  | defaultSettings (settings : Option DefaultSettings)
  | stateful (stateful : Option Stateful)
  | restricted (restricted : Option Restricted)
  | inputRequirement (requirement : Option InputRequirement)
  | systemResourceConsiderations (considerations : List SystemResourceConsideration)
  | useCases (useCases : List UseCase)
  | multiProcessorUseCases (useCases : List MultiProcessorUseCase)
  | seeAlso (related : Option SeeAlso)
  | defaultSchedule (schedule : Option DefaultSchedule)
  | providedServiceApis (apis : List ServiceApi)
  | footer (component : Component)

/-- The sections that only processors have. -/
def ProcessorMetadata.sections (metadata : ProcessorMetadata) : List Section :=
  [.relationships metadata.relationships,
   .dynamicRelationship metadata.dynamicRelationship,
   .readsAttributes metadata.readsAttributes,
   .writesAttributes metadata.writesAttributes,
   .triggerSerially metadata.triggerSerially,
   .triggerWhenEmpty metadata.triggerWhenEmpty,
   .triggerWhenAnyDestinationAvailable metadata.triggerWhenAnyDestinationAvailable,
   .supportsBatching metadata.supportsBatching,
   .primaryNodeOnly metadata.primaryNodeOnly,
   .sideEffectFree metadata.sideEffectFree,
   .defaultSettings metadata.defaultSettings]

/-- Every section of a document, in canonical order. A processor has its own ones
between the properties and the state; a controller service ends with the
interfaces it provides. -/
def Request.sections (request : Request) : List Section :=
  let component := request.component
  [.header component,
   .name component.className,
   .category component.category,
   .deprecationNotice component.deprecationNotice,
   .description component.description,
   .tags component.tags,
   .properties component.properties request.propertyServices,
   .dynamicProperties component.dynamicProperties,
   .supportsSensitiveDynamicProperties component.supportsSensitiveDynamicProperties] ++
  (match component.kind.processor? with
    | some metadata => metadata.sections
    | none => []) ++
  [.stateful component.stateful,
   .restricted component.restricted,
   .inputRequirement component.inputRequirement,
   .systemResourceConsiderations component.systemResourceConsiderations,
   .useCases component.useCases,
   .multiProcessorUseCases component.multiProcessorUseCases,
   .seeAlso component.seeAlso,
   .defaultSchedule component.defaultSchedule] ++
  (match request.providedApis with
    | some apis => [.providedServiceApis apis]
    | none => []) ++
  [.footer component]

end ComponentDocs
