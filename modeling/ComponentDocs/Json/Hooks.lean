import ComponentDocs.Document.Section
import ComponentDocs.Json.Basic

/-! What a writer of JSON gathers for each section: one member of the object, or none. -/
namespace ComponentDocs.Json

open Vocabulary (name)

def ofText? : Option String → Json
  | some text => .string text
  | none => .null

/-- The member for a value that may be absent. -/
def given {α : Type} (key : String) (value : Option α) (ofValue : α → Json) : Members :=
  match value with
  | some value => [(key, ofValue value)]
  | none => []

def ofServiceApi (api : ServiceApi) : Json :=
  .object
    [("className", .string api.className),
     ("groupId", .string api.groupId),
     ("artifactId", .string api.artifactId),
     ("version", .string api.version)]

def ofAllowableValue (value : AllowableValue) : Json :=
  .object
    [("displayName", .string value.displayName),
     ("value", .string value.value),
     ("description", ofText? value.description)]

def ofDependency (dependency : PropertyDependency) : Json :=
  .object <|
    [("propertyName", .string dependency.propertyName),
     ("propertyDisplayName", .string dependency.propertyDisplayName)] ++
    given "dependentValues" dependency.dependentValues ofStrings

def ofResources (resources : ResourceCardinality × List ResourceType) : Json :=
  .object
    [("cardinality", .string (name resources.1)),
     ("resourceTypes", ofStrings (resources.2.map name))]

/-- The coordinates that the name of the property resolves to, or placeholders beside the
class. -/
def ofService (services : PropertyServices) (property : PropertyDescriptor) (className : String) :
    Json :=
  match services.find? property.name with
  | some api => ofServiceApi api
  | none => ofServiceApi ⟨className, "unknown", "unknown", "unknown"⟩

def ofProperty (services : PropertyServices) (property : PropertyDescriptor) : Json :=
  .object <|
    [("name", .string property.name),
     ("displayName", .string property.shownName),
     ("description", ofText? property.description)] ++
    given "defaultValue" property.defaultValue .string ++
    given "controllerServiceDefinition" property.controllerServiceDefinition
      (ofService services property) ++
    (if property.allowableValues.isEmpty then []
      else [("allowableValues", .array (property.allowableValues.map ofAllowableValue))]) ++
    [("required", .bool property.required),
     ("sensitive", .bool property.sensitive),
     ("expressionLanguageSupported", .bool property.expressionLanguageSupported)] ++
    given "expressionLanguageScope" property.expressionLanguageScope (fun scope => .string (name scope)) ++
    [("dynamicallyModifiesClasspath", .bool property.dynamicallyModifiesClasspath),
     ("dynamic", .bool property.dynamic)] ++
    given "resourceDefinition"
      (property.resourceDefinition.bind fun resource =>
        resource.cardinality.map fun cardinality => (cardinality, resource.resourceTypes))
      ofResources ++
    if property.dependencies.isEmpty then []
    else [("dependencies", .array (property.dependencies.map ofDependency))]

def ofDynamicProperty (property : DynamicProperty) : Json :=
  .object
    [("name", .string property.name),
     ("value", .string property.value),
     ("description", .string property.description),
     ("expressionLanguageScope", .string (name property.expressionLanguageScope))]

def ofRelationship (relationship : Relationship) : Json :=
  .object
    [("name", .string relationship.name),
     ("description", .string relationship.description),
     ("autoTerminated", .bool relationship.autoTerminated)]

def ofDynamicRelationship (relationship : DynamicRelationship) : Json :=
  .object
    [("name", .string relationship.name),
     ("description", .string relationship.description)]

def ofAttribute (descriptor : AttributeDescriptor) : Json :=
  .object [("name", .string descriptor.name), ("description", .string descriptor.description)]

def ofDefaultSettings (settings : DefaultSettings) : Json :=
  .object
    [("yieldDuration", .string settings.yieldDuration),
     ("penaltyDuration", .string settings.penaltyDuration),
     ("bulletinLevel", .string (name settings.bulletinLevel))]

def ofDeprecationNotice (notice : DeprecationNotice) : Json :=
  .object
    [("reason", .string notice.reason),
     ("alternatives", ofStrings notice.merged)]

def ofStateful (stateful : Stateful) : Json :=
  .object
    [("description", .string stateful.description),
     ("scopes", ofStrings (stateful.scopes.map name))]

def ofRestriction (restriction : Restriction) : Json :=
  .object
    [("requiredPermission",
       ofText? (restriction.requiredPermission.map RequiredPermission.label)),
     ("explanation", .string restriction.explanation)]

def ofRestricted (restricted : Restricted) : Json :=
  .object <|
    given "generalRestrictionExplanation"
      (restricted.generalRestrictionExplanation.filter fun text => !text.isEmpty) .string ++
    [("restrictions", .array (restricted.restrictions.map ofRestriction))]

/-- A consideration counts only if it names a resource. -/
def ofConsideration? (consideration : SystemResourceConsideration) : Option Json :=
  consideration.resource.map fun resource =>
    .object
      [("resource", .string (name resource)),
       ("description", .string consideration.description)]

def ofUseCase (useCase : UseCase) : Json :=
  .object
    [("description", .string useCase.description),
     ("notes", .string useCase.notes),
     ("keywords", ofStrings useCase.keywords),
     ("inputRequirement", .string (name useCase.inputRequirement)),
     ("configuration", .string useCase.configuration)]

def ofProcessorConfiguration (step : ProcessorConfiguration) : Json :=
  .object
    [("processorClassName", .string step.shownClassName),
     ("configuration", .string step.configuration)]

def ofMultiProcessorUseCase (useCase : MultiProcessorUseCase) : Json :=
  .object
    [("description", .string useCase.description),
     ("notes", .string useCase.notes),
     ("keywords", ofStrings useCase.keywords),
     ("processorConfigurations", .array (useCase.configurations.map ofProcessorConfiguration))]

def ofDefaultSchedule (schedule : DefaultSchedule) : Json :=
  .object
    [("strategy", .string (name schedule.strategy)),
     ("period", .string schedule.period),
     ("concurrentTasks", .ofNat schedule.concurrentTasks.toNat)]

/-- A presence flag, which is gathered only where it is set. -/
def flag? (key : String) (present : Bool) : Option (String × Json) :=
  if present then some (key, .bool true) else none

/-- The member for a section between header and footer. -/
def member? : Section → Option (String × Json)
  | .header _ => none
  | .name className => some ("name", .string className)
  | .category category => some ("type", .string (name category))
  | .deprecationNotice notice => notice.map fun notice =>
    ("deprecationNotice", ofDeprecationNotice notice)
  | .description description => description.map fun text => ("description", .string text)
  | .tags tags => some ("tags", ofStrings tags)
  | .properties properties services =>
    if properties.isEmpty then none
    else some ("properties", .array (properties.map (ofProperty services)))
  | .dynamicProperties properties =>
    if properties.isEmpty then none
    else some ("dynamicProperties", .array (properties.map ofDynamicProperty))
  | .supportsSensitiveDynamicProperties supported =>
    flag? "supportsSensitiveDynamicProperties" supported
  | .relationships relationships =>
    if relationships.isEmpty then none
    else some ("relationships", .array (relationships.toList.map ofRelationship))
  | .dynamicRelationship relationship => relationship.map fun relationship =>
    ("dynamicRelationship", ofDynamicRelationship relationship)
  | .readsAttributes attributes =>
    if attributes.isEmpty then none
    else some ("readsAttributes", .array (attributes.map ofAttribute))
  | .writesAttributes attributes =>
    if attributes.isEmpty then none
    else some ("writesAttributes", .array (attributes.map ofAttribute))
  | .triggerSerially present => flag? "triggerSerially" present
  | .triggerWhenEmpty present => flag? "triggerWhenEmpty" present
  | .triggerWhenAnyDestinationAvailable present =>
    flag? "triggerWhenAnyDestinationAvailable" present
  | .supportsBatching present => flag? "supportsBatching" present
  | .primaryNodeOnly present => flag? "primaryNodeOnly" present
  | .sideEffectFree present => flag? "sideEffectFree" present
  | .defaultSettings settings => settings.map fun settings =>
    ("defaultSettings", ofDefaultSettings settings)
  | .stateful state => state.map fun state => ("stateful", ofStateful state)
  | .restricted limits => limits.map fun limits => ("restricted", ofRestricted limits)
  | .inputRequirement requirement => requirement.map fun requirement =>
    ("inputRequirement", .string (name requirement))
  | .systemResourceConsiderations considerations =>
    let known := considerations.filterMap ofConsideration?
    if known.isEmpty then none else some ("systemResourceConsiderations", .array known)
  | .useCases useCases =>
    if useCases.isEmpty then none else some ("useCases", .array (useCases.map ofUseCase))
  | .multiProcessorUseCases useCases =>
    if useCases.isEmpty then none
    else some ("multiProcessorUseCases", .array (useCases.map ofMultiProcessorUseCase))
  | .seeAlso related =>
    let merged := (related.map SeeAlso.merged).getD []
    if merged.isEmpty then none else some ("seeAlso", ofStrings merged)
  | .defaultSchedule schedule => schedule.map fun schedule =>
    ("defaultSchedule", ofDefaultSchedule schedule)
  | .providedServiceApis apis =>
    if apis.isEmpty then none else some ("providedServiceAPIs", .array (apis.map ofServiceApi))
  | .footer _ => none

end ComponentDocs.Json
