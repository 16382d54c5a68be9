import ComponentDocs.Document.Section
import ComponentDocs.Log.Event
import ComponentDocs.Markup.Event

/-! What a writer of XML does for each section: a row of steps, each of which writes an event or
tells the log something. -/
namespace ComponentDocs.Markup

open Vocabulary (name)

inductive Step
  | emit (event : Event)
  | note (event : Log.Event)

namespace Step

def element (name : String) (inside : List Step) : List Step :=
  .emit (.start name) :: (inside ++ [.emit .finish])

/-- An element that holds one text, the empty one if there is none. -/
def text (name : String) (value : Option String) : List Step :=
  element name [.emit (.text (value.getD ""))]

def bool (name : String) (value : Bool) : List Step :=
  text name (some (if value then "true" else "false"))

/-- A presence flag, which is written only where it is set. -/
def flag (name : String) (present : Bool) : List Step := if present then bool name true else []

/-- What is written of a value that may be absent. -/
def given {α : Type} (value : Option α) (steps : α → List Step) : List Step :=
  match value with
  | some value => steps value
  | none => []

/-- An element around the items of a list. Without any it holds the empty text. -/
def array {α : Type} (name : String) (items : List α) (item : α → List Step) : List Step :=
  element name <| items.flatMap item ++ if items.isEmpty then [.emit (.text "")] else []

def texts (outer inner : String) (values : List String) : List Step :=
  array outer values fun value => text inner (some value)

def serviceApiFields (api : ServiceApi) : List Step :=
  text "className" (some api.className) ++ text "groupId" (some api.groupId) ++
    text "artifactId" (some api.artifactId) ++ text "version" (some api.version)

/-- A property whose service interface is written with placeholder coordinates. -/
def placeholderEvent (property : PropertyDescriptor) : Log.Event where
  level := .debug
  target := "extdoc::render::xml"
  message := "no service API resolved, using placeholder coordinates"
  fields := [("property", property.name)]

/-- The service interface of a property that references the class `className`. -/
def service (services : PropertyServices) (property : PropertyDescriptor) (className : String) :
    List Step :=
  element "controllerServiceDefinition" <|
    match services.find? property.name with
    | some api => serviceApiFields api
    | none =>
      .note (placeholderEvent property) ::
        (text "className" (some className) ++ text "groupId" (some "unknown") ++
          text "artifactId" (some "unknown") ++ text "version" (some "unknown"))

def allowableValue (value : AllowableValue) : List Step :=
  element "allowableValue" <|
    text "displayName" (some value.displayName) ++ text "value" (some value.value) ++
      text "description" value.description

def dependency (dependency : PropertyDependency) : List Step :=
  element "dependency" <|
    text "propertyName" (some dependency.propertyName) ++
      text "propertyDisplayName" (some dependency.propertyDisplayName) ++
      given dependency.dependentValues (texts "dependentValues" "dependentValue")

/-- Resources are written only while their cardinality is known. -/
def resources (resource : ResourceDefinition) : List Step :=
  given resource.cardinality fun cardinality =>
    element "resourceDefinition" <|
      text "cardinality" (some (name cardinality)) ++
        texts "resourceTypes" "resourceType" (resource.resourceTypes.map name)

def property (services : PropertyServices) (property : PropertyDescriptor) : List Step :=
  element "property" <|
    text "name" (some property.name) ++
    text "displayName" (some property.shownName) ++
    text "description" property.description ++
    given property.defaultValue (fun value => text "defaultValue" (some value)) ++
    given property.controllerServiceDefinition (service services property) ++
    (if property.allowableValues.isEmpty then []
      else array "allowableValues" property.allowableValues allowableValue) ++
    bool "required" property.required ++
    bool "sensitive" property.sensitive ++
    bool "expressionLanguageSupported" property.expressionLanguageSupported ++
    given property.expressionLanguageScope
      (fun scope => text "expressionLanguageScope" (some (name scope))) ++
    bool "dynamicallyModifiesClasspath" property.dynamicallyModifiesClasspath ++
    bool "dynamic" property.dynamic ++
    given property.resourceDefinition resources ++
    if property.dependencies.isEmpty then []
    else array "dependencies" property.dependencies dependency

def propertiesEvent (count : Nat) : Log.Event where
  level := .trace
  target := "extdoc::render::xml"
  message := "writing properties"
  fields := [("count", toString count)]

def dynamicProperty (property : DynamicProperty) : List Step :=
  element "dynamicProperty" <|
    text "name" (some property.name) ++ text "value" (some property.value) ++
      text "description" (some property.description) ++
      text "expressionLanguageScope" (some (name property.expressionLanguageScope))

def relationship (relationship : Relationship) : List Step :=
  element "relationship" <|
    text "name" (some relationship.name) ++ text "description" (some relationship.description) ++
      bool "autoTerminated" relationship.autoTerminated

def dynamicRelationship (relationship : DynamicRelationship) : List Step :=
  element "dynamicRelationship" <|
    text "name" (some relationship.name) ++ text "description" (some relationship.description)

def attributeNamed (name : String) (descriptor : AttributeDescriptor) : List Step :=
  element name <|
    text "name" (some descriptor.name) ++ text "description" (some descriptor.description)

def attributes (outer inner : String) (descriptors : List AttributeDescriptor) : List Step :=
  if descriptors.isEmpty then [] else array outer descriptors (attributeNamed inner)

def defaultSettings (settings : DefaultSettings) : List Step :=
  element "defaultSettings" <|
    text "yieldDuration" (some settings.yieldDuration) ++
      text "penaltyDuration" (some settings.penaltyDuration) ++
      text "bulletinLevel" (some (name settings.bulletinLevel))

def deprecationNotice (notice : DeprecationNotice) : List Step :=
  element "deprecationNotice" <|
    text "reason" (some notice.reason) ++ texts "alternatives" "alternative" notice.merged

def stateful (stateful : Stateful) : List Step :=
  element "stateful" <|
    text "description" (some stateful.description) ++
      texts "scopes" "scope" (stateful.scopes.map name)

def restriction (restriction : Restriction) : List Step :=
  element "restriction" <|
    text "requiredPermission" (restriction.requiredPermission.map RequiredPermission.label) ++
      text "explanation" (some restriction.explanation)

/-- An empty general explanation is written as little as an absent one. -/
def restricted (restricted : Restricted) : List Step :=
  element "restricted" <|
    given (restricted.generalRestrictionExplanation.filter fun text => !text.isEmpty)
      (fun explanation => text "generalRestrictionExplanation" (some explanation)) ++
    array "restrictions" restricted.restrictions restriction

def resourceUse (use : SystemResource × String) : List Step :=
  element "systemResourceConsideration" <|
    text "resource" (some (name use.1)) ++ text "description" (some use.2)

/-- A consideration is written only if it names a resource. -/
def considerations (considerations : List SystemResourceConsideration) : List Step :=
  let known := considerations.filterMap fun consideration =>
    consideration.resource.map fun resource => (resource, consideration.description)
  if known.isEmpty then [] else array "systemResourceConsiderations" known resourceUse

def useCase (useCase : UseCase) : List Step :=
  element "useCase" <|
    text "description" (some useCase.description) ++ text "notes" (some useCase.notes) ++
      texts "keywords" "keyword" useCase.keywords ++
      text "inputRequirement" (some (name useCase.inputRequirement)) ++
      text "configuration" (some useCase.configuration)

def processorConfiguration (step : ProcessorConfiguration) : List Step :=
  element "processorConfiguration" <|
    text "processorClassName" (some step.shownClassName) ++
      text "configuration" (some step.configuration)

def multiProcessorUseCase (useCase : MultiProcessorUseCase) : List Step :=
  element "multiProcessorUseCase" <|
    text "description" (some useCase.description) ++ text "notes" (some useCase.notes) ++
      texts "keywords" "keyword" useCase.keywords ++
      array "processorConfigurations" useCase.configurations processorConfiguration

def seeAlso (related : Option SeeAlso) : List Step :=
  let merged := (related.map SeeAlso.merged).getD []
  if merged.isEmpty then [] else texts "seeAlso" "see" merged

def defaultSchedule (schedule : DefaultSchedule) : List Step :=
  element "defaultSchedule" <|
    text "strategy" (some (name schedule.strategy)) ++ text "period" (some schedule.period) ++
      text "concurrentTasks" (some (toString schedule.concurrentTasks.toNat))

/-- The steps for a section. The root element encloses all others. -/
def ofSection (declares : Bool) : Section → List Step
  | .header _ => (if declares then [.emit .declaration] else []) ++ [.emit (.start "extension")]
  | .name className => text "name" (some className)
  | .category category => text "type" (some (name category))
  | .deprecationNotice notice => given notice deprecationNotice
  | .description description => given description fun value => text "description" (some value)
  | .tags tags => texts "tags" "tag" tags
  | .properties properties services =>
    if properties.isEmpty then []
    else .note (propertiesEvent properties.length) ::
      array "properties" properties (property services)
  | .dynamicProperties properties =>
    if properties.isEmpty then [] else array "dynamicProperties" properties dynamicProperty
  | .supportsSensitiveDynamicProperties supported =>
    flag "supportsSensitiveDynamicProperties" supported
  | .relationships relationships =>
    if relationships.isEmpty then []
    else array "relationships" relationships.toList relationship
  | .dynamicRelationship relationship => given relationship dynamicRelationship
  | .readsAttributes descriptors => attributes "readsAttributes" "readsAttribute" descriptors
  | .writesAttributes descriptors => attributes "writesAttributes" "writesAttribute" descriptors
  | .triggerSerially present => flag "triggerSerially" present
  | .triggerWhenEmpty present => flag "triggerWhenEmpty" present
  | .triggerWhenAnyDestinationAvailable present =>
    flag "triggerWhenAnyDestinationAvailable" present
  | .supportsBatching present => flag "supportsBatching" present
  | .primaryNodeOnly present => flag "primaryNodeOnly" present
  | .sideEffectFree present => flag "sideEffectFree" present
  | .defaultSettings settings => given settings defaultSettings
  | .stateful state => given state stateful
  | .restricted limits => given limits restricted
  | .inputRequirement requirement =>
    given requirement fun requirement => text "inputRequirement" (some (name requirement))
  | .systemResourceConsiderations declared => considerations declared
  | .useCases useCases => if useCases.isEmpty then [] else array "useCases" useCases useCase
  | .multiProcessorUseCases useCases =>
    if useCases.isEmpty then []
    else array "multiProcessorUseCases" useCases multiProcessorUseCase
  | .seeAlso related => seeAlso related
  | .defaultSchedule schedule => given schedule defaultSchedule
  | .providedServiceApis apis =>
    if apis.isEmpty then []
    else array "providedServiceAPIs" apis fun api =>
      element "providedServiceAPI" (serviceApiFields api)
  | .footer _ => [.emit .finish]

end Step

end ComponentDocs.Markup
