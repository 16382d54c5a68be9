import ComponentDocs.Proofs.Snapshot.CategoryTag
import ComponentDocs.Proofs.Snapshot.Gap

/-! The records of a snapshot by their fields: under which key each stands, whether it must be
there, what a record has without it, and which records stand in it. No reader knows of these
tables. -/
namespace ComponentDocs

open Json (Gap Members)

namespace Snapshot

/-- The records that objects of a snapshot are read as. What only one kind of component declares
is a part of the component. -/
inductive Record
  | serviceApi | allowableValue | resourceDefinition | propertyDependency | propertyDescriptor
  | dynamicProperty | deprecationNotice | seeAlso | stateful | restriction | restricted
  | systemResourceConsideration | useCase | processorConfiguration | multiProcessorUseCase
  | defaultSchedule | defaultSettings | relationship | dynamicRelationship | attributeDescriptor
  | component | request

namespace Record

abbrev Value : Record → Type
  | serviceApi => ServiceApi
  | allowableValue => AllowableValue
  | resourceDefinition => ResourceDefinition
  | propertyDependency => PropertyDependency
  | propertyDescriptor => PropertyDescriptor
  | dynamicProperty => DynamicProperty
  | deprecationNotice => DeprecationNotice
  | seeAlso => SeeAlso
  | stateful => Stateful
  | restriction => Restriction
  | restricted => Restricted
  | systemResourceConsideration => SystemResourceConsideration
  | useCase => UseCase
  | processorConfiguration => ProcessorConfiguration
  | multiProcessorUseCase => MultiProcessorUseCase
  | defaultSchedule => DefaultSchedule
  | defaultSettings => DefaultSettings
  | relationship => Relationship
  | dynamicRelationship => DynamicRelationship
  | attributeDescriptor => AttributeDescriptor
  | component => Component
  | request => Request

def shape : (record : Record) → Shape record.Value
  | serviceApi => ServiceApi.shape
  | allowableValue => AllowableValue.shape
  | resourceDefinition => ResourceDefinition.shape
  | propertyDependency => PropertyDependency.shape
  | propertyDescriptor => PropertyDescriptor.shape
  | dynamicProperty => DynamicProperty.shape
  | deprecationNotice => DeprecationNotice.shape
  | seeAlso => SeeAlso.shape
  | stateful => Stateful.shape
  | restriction => Restriction.shape
  | restricted => Restricted.shape
  | systemResourceConsideration => SystemResourceConsideration.shape
  | useCase => UseCase.shape
  | processorConfiguration => ProcessorConfiguration.shape
  | multiProcessorUseCase => MultiProcessorUseCase.shape
  | defaultSchedule => DefaultSchedule.shape
  | defaultSettings => DefaultSettings.shape
  | relationship => Relationship.shape
  | dynamicRelationship => DynamicRelationship.shape
  | attributeDescriptor => AttributeDescriptor.shape
  | component => Component.shape
  | request => Request.shape

end Record

/-- Whether a record must have a field. If not, `reset` is the record with the declared default in
its place. Only an optional field may be `null`. -/
inductive Presence (α : Type)
  | needed
  | defaulted (reset : α → α)
  | optional (reset : α → α)

/-- The records in a field: one, those of a list, or those of a table. `put` puts what stands in
the field into the whole record. -/
inductive Contents (α : Type)
  | plain
  | record (inner : Record) (put : inner.Value → α → α)
  | list (inner : Record) (put : List inner.Value → α → α)
  | table (inner : Record) (put : List (String × inner.Value) → α → α)

/-- A field of a record. `kind` is the category of the components that have it, if not all do. -/
structure RecordField (α : Type) where
  key : String
  presence : Presence α
  contents : Contents α := .plain
  kind : Option Category := none

namespace RecordField

variable {α β : Type}

def needed (key : String) : RecordField α := { key, presence := .needed }

def defaulted (key : String) (reset : α → α) : RecordField α := { key, presence := .defaulted reset }

def optional (key : String) (reset : α → α) : RecordField α := { key, presence := .optional reset }

def holding (contents : Contents α) (field : RecordField α) : RecordField α := { field with contents }

/-- A field of what only one kind of component declares, as a field of the component. -/
def lift (category : Category) (update : (β → β) → α → α) (field : RecordField β) : RecordField α where
  key := field.key
  presence :=
    match field.presence with
    | .needed => .needed
    | .defaulted reset => .defaulted (update reset)
    | .optional reset => .optional (update reset)
  contents :=
    match field.contents with
    | .plain => .plain
    | .record inner put => .record inner fun value => update (put value)
    | .list inner put => .list inner fun values => update (put values)
    | .table inner put => .table inner fun entries => update (put entries)
  kind := some category

end RecordField

end Snapshot

open Snapshot (RecordField)

def ServiceApi.fields : List (RecordField ServiceApi) :=
  [.needed "className",
   .needed "groupId",
   .needed "artifactId",
   .needed "version"]

def AllowableValue.fields : List (RecordField AllowableValue) :=
  [.defaulted "displayName" fun value => { value with displayName := "" },
   .defaulted "value" fun value => { value with value := "" },
   .optional "description" fun value => { value with description := none }]

def ResourceDefinition.fields : List (RecordField ResourceDefinition) :=
  [.optional "cardinality" fun resource => { resource with cardinality := none },
   .defaulted "resourceTypes" fun resource => { resource with resourceTypes := [] }]

def PropertyDependency.fields : List (RecordField PropertyDependency) :=
  [.defaulted "propertyName" fun dependency => { dependency with propertyName := "" },
   .defaulted "propertyDisplayName" fun dependency => { dependency with propertyDisplayName := "" },
   .optional "dependentValues" fun dependency => { dependency with dependentValues := none }]

def PropertyDescriptor.fields : List (RecordField PropertyDescriptor) :=
  [.defaulted "name" fun property => { property with name := "" },
   .optional "displayName" fun property => { property with displayName := none },
   .optional "description" fun property => { property with description := none },
   .optional "defaultValue" fun property => { property with defaultValue := none },
   .holding (.list .allowableValue fun values property => { property with allowableValues := values }) <|
     .defaulted "allowableValues" fun property => { property with allowableValues := [] },
   .defaulted "required" fun property => { property with required := false },
   .defaulted "sensitive" fun property => { property with sensitive := false },
   .defaulted "dynamic" fun property => { property with dynamic := false },
   .defaulted "expressionLanguageSupported" fun property =>
     { property with expressionLanguageSupported := false },
   .optional "expressionLanguageScope" fun property => { property with expressionLanguageScope := none },
   .defaulted "dynamicallyModifiesClasspath" fun property =>
     { property with dynamicallyModifiesClasspath := false },
   .optional "controllerServiceDefinition" fun property =>
     { property with controllerServiceDefinition := none },
   .holding (.record .resourceDefinition fun resource property =>
       { property with resourceDefinition := some resource }) <|
     .optional "resourceDefinition" fun property => { property with resourceDefinition := none },
   .holding (.list .propertyDependency fun dependencies property => { property with dependencies }) <|
     .defaulted "dependencies" fun property => { property with dependencies := [] }]

def DynamicProperty.fields : List (RecordField DynamicProperty) :=
  [.defaulted "name" fun property => { property with name := "" },
   .defaulted "value" fun property => { property with value := "" },
   .defaulted "description" fun property => { property with description := "" },
   .defaulted "expressionLanguageScope" fun property => { property with expressionLanguageScope := .none }]

def DeprecationNotice.fields : List (RecordField DeprecationNotice) :=
  [.defaulted "reason" fun notice => { notice with reason := "" },
   .defaulted "alternatives" fun notice => { notice with alternatives := [] },
   .defaulted "classNames" fun notice => { notice with classNames := [] }]

def SeeAlso.fields : List (RecordField SeeAlso) :=
  [.defaulted "classes" fun related => { related with classes := [] },
   .defaulted "classNames" fun related => { related with classNames := [] }]

def Stateful.fields : List (RecordField Stateful) :=
  [.defaulted "description" fun state => { state with description := "" },
   .defaulted "scopes" fun state => { state with scopes := [] }]

def Restriction.fields : List (RecordField Restriction) :=
  [.optional "requiredPermission" fun restriction => { restriction with requiredPermission := none },
   .defaulted "explanation" fun restriction => { restriction with explanation := "" }]

def Restricted.fields : List (RecordField Restricted) :=
  [.optional "generalRestrictionExplanation" fun restricted =>
     { restricted with generalRestrictionExplanation := none },
   .holding (.list .restriction fun restrictions restricted => { restricted with restrictions }) <|
     .defaulted "restrictions" fun restricted => { restricted with restrictions := [] }]

def SystemResourceConsideration.fields : List (RecordField SystemResourceConsideration) :=
  [.optional "resource" fun consideration => { consideration with resource := none },
   .defaulted "description" fun consideration => { consideration with description := "" }]

def UseCase.fields : List (RecordField UseCase) :=
  [.defaulted "description" fun useCase => { useCase with description := "" },
   .defaulted "notes" fun useCase => { useCase with notes := "" },
   .defaulted "keywords" fun useCase => { useCase with keywords := [] },
   .defaulted "inputRequirement" fun useCase => { useCase with inputRequirement := .allowed },
   .defaulted "configuration" fun useCase => { useCase with configuration := "" }]

def ProcessorConfiguration.fields : List (RecordField ProcessorConfiguration) :=
  [.defaulted "processorClassName" fun step => { step with processorClassName := "" },
   .optional "processorClass" fun step => { step with processorClass := none },
   .defaulted "configuration" fun step => { step with configuration := "" }]

def MultiProcessorUseCase.fields : List (RecordField MultiProcessorUseCase) :=
  [.defaulted "description" fun useCase => { useCase with description := "" },
   .defaulted "notes" fun useCase => { useCase with notes := "" },
   .defaulted "keywords" fun useCase => { useCase with keywords := [] },
   .holding (.list .processorConfiguration fun steps useCase => { useCase with configurations := steps }) <|
     .defaulted "configurations" fun useCase => { useCase with configurations := [] }]

/-- A schedule has defaults of its own, other than those of its texts and numbers. -/
def DefaultSchedule.fields : List (RecordField DefaultSchedule) :=
  [.defaulted "strategy" fun schedule => { schedule with strategy := .timerDriven },
   .defaulted "period" fun schedule => { schedule with period := "0 sec" },
   .defaulted "concurrentTasks" fun schedule => { schedule with concurrentTasks := 1 }]

/-- Settings have defaults of their own. -/
def DefaultSettings.fields : List (RecordField DefaultSettings) :=
  [.defaulted "yieldDuration" fun settings => { settings with yieldDuration := "1 sec" },
   .defaulted "penaltyDuration" fun settings => { settings with penaltyDuration := "30 sec" },
   .defaulted "bulletinLevel" fun settings => { settings with bulletinLevel := .warn }]

def Relationship.fields : List (RecordField Relationship) :=
  [.defaulted "name" fun relationship => { relationship with name := "" },
   .defaulted "description" fun relationship => { relationship with description := "" },
   .defaulted "autoTerminated" fun relationship => { relationship with autoTerminated := false }]

def DynamicRelationship.fields : List (RecordField DynamicRelationship) :=
  [.defaulted "name" fun relationship => { relationship with name := "" },
   .defaulted "description" fun relationship => { relationship with description := "" }]

def AttributeDescriptor.fields : List (RecordField AttributeDescriptor) :=
  [.defaulted "name" fun descriptor => { descriptor with name := "" },
   .defaulted "description" fun descriptor => { descriptor with description := "" }]

/-- The set of relationships is built from the list that stands in its field. -/
def ProcessorMetadata.fields : List (RecordField ProcessorMetadata) :=
  [.holding (.list .relationship fun relationships metadata =>
       { metadata with relationships := .ofList relationships }) <|
     .defaulted "relationships" fun metadata => { metadata with relationships := .empty },
   .holding (.record .dynamicRelationship fun relationship metadata =>
       { metadata with dynamicRelationship := some relationship }) <|
     .optional "dynamicRelationship" fun metadata => { metadata with dynamicRelationship := none },
   .holding (.list .attributeDescriptor fun attributes metadata =>
       { metadata with readsAttributes := attributes }) <|
     .defaulted "readsAttributes" fun metadata => { metadata with readsAttributes := [] },
   .holding (.list .attributeDescriptor fun attributes metadata =>
       { metadata with writesAttributes := attributes }) <|
     .defaulted "writesAttributes" fun metadata => { metadata with writesAttributes := [] },
   .defaulted "triggerSerially" fun metadata => { metadata with triggerSerially := false },
   .defaulted "triggerWhenEmpty" fun metadata => { metadata with triggerWhenEmpty := false },
   .defaulted "triggerWhenAnyDestinationAvailable" fun metadata =>
     { metadata with triggerWhenAnyDestinationAvailable := false },
   .defaulted "supportsBatching" fun metadata => { metadata with supportsBatching := false },
   .defaulted "primaryNodeOnly" fun metadata => { metadata with primaryNodeOnly := false },
   .defaulted "sideEffectFree" fun metadata => { metadata with sideEffectFree := false },
   .holding (.record .defaultSettings fun settings metadata =>
       { metadata with defaultSettings := some settings }) <|
     .optional "defaultSettings" fun metadata => { metadata with defaultSettings := none }]

def ControllerServiceMetadata.fields : List (RecordField ControllerServiceMetadata) :=
  [.holding (.list .serviceApi fun apis metadata => { metadata with providedServiceApis := apis }) <|
     .defaulted "providedServiceApis" fun metadata => { metadata with providedServiceApis := [] }]

namespace Component

/-- The component with other metadata, if it is a processor. -/
def onProcessor (update : ProcessorMetadata → ProcessorMetadata) (component : Component) : Component :=
  match component.kind with
  | .processor metadata => { component with kind := .processor (update metadata) }
  | _ => component

/-- The component with other metadata, if it is a controller service. -/
def onControllerService (update : ControllerServiceMetadata → ControllerServiceMetadata)
    (component : Component) : Component :=
  match component.kind with
  | .controllerService metadata => { component with kind := .controllerService (update metadata) }
  | _ => component

/-- The fields that components of every kind have. -/
def ownFields : List (RecordField Component) :=
  [.needed "className",
   .optional "description" fun component => { component with description := none },
   .defaulted "tags" fun component => { component with tags := [] },
   .holding (.list .propertyDescriptor fun properties component => { component with properties }) <|
     .defaulted "properties" fun component => { component with properties := [] },
   .holding (.list .dynamicProperty fun properties component =>
       { component with dynamicProperties := properties }) <|
     .defaulted "dynamicProperties" fun component => { component with dynamicProperties := [] },
   .defaulted "supportsSensitiveDynamicProperties" fun component =>
     { component with supportsSensitiveDynamicProperties := false },
   .holding (.record .deprecationNotice fun notice component =>
       { component with deprecationNotice := some notice }) <|
     .optional "deprecationNotice" fun component => { component with deprecationNotice := none },
   .holding (.record .stateful fun state component => { component with stateful := some state }) <|
     .optional "stateful" fun component => { component with stateful := none },
   .holding (.record .restricted fun limits component => { component with restricted := some limits }) <|
     .optional "restricted" fun component => { component with restricted := none },
   .optional "inputRequirement" fun component => { component with inputRequirement := none },
   .holding (.list .systemResourceConsideration fun considerations component =>
       { component with systemResourceConsiderations := considerations }) <|
     .defaulted "systemResourceConsiderations" fun component =>
       { component with systemResourceConsiderations := [] },
   .holding (.list .useCase fun useCases component => { component with useCases }) <|
     .defaulted "useCases" fun component => { component with useCases := [] },
   .holding (.list .multiProcessorUseCase fun useCases component =>
       { component with multiProcessorUseCases := useCases }) <|
     .defaulted "multiProcessorUseCases" fun component => { component with multiProcessorUseCases := [] },
   .holding (.record .seeAlso fun related component => { component with seeAlso := some related }) <|
     .optional "seeAlso" fun component => { component with seeAlso := none },
   .holding (.record .defaultSchedule fun schedule component =>
       { component with defaultSchedule := some schedule }) <|
     .optional "defaultSchedule" fun component => { component with defaultSchedule := none }]

/-- The fields that only components of one category have. -/
def declaredFields : Category → List (RecordField Component)
  | .processor => ProcessorMetadata.fields.map (.lift .processor onProcessor)
  | .controllerService => ControllerServiceMetadata.fields.map (.lift .controllerService onControllerService)
  | .reportingTask | .flowAnalysisRule | .parameterProvider => []

def fields : List (RecordField Component) :=
  ownFields ++ declaredFields .processor ++ declaredFields .controllerService

end Component

/-- Of the services under one name, the last one counts. -/
def Request.fields : List (RecordField Request) :=
  [.holding (.record .component fun component request => { request with component }) <|
     .needed "component",
   .holding (.list .serviceApi fun apis request => { request with providedServiceApis := apis }) <|
     .defaulted "providedServiceApis" fun request => { request with providedServiceApis := [] },
   .holding (.table .serviceApi fun entries request => { request with propertyServices := .ofList entries }) <|
     .defaulted "propertyServices" fun request => { request with propertyServices := .empty }]

namespace Snapshot

namespace Record

def fields : (record : Record) → List (RecordField record.Value)
  | serviceApi => ServiceApi.fields
  | allowableValue => AllowableValue.fields
  | resourceDefinition => ResourceDefinition.fields
  | propertyDependency => PropertyDependency.fields
  | propertyDescriptor => PropertyDescriptor.fields
  | dynamicProperty => DynamicProperty.fields
  | deprecationNotice => DeprecationNotice.fields
  | seeAlso => SeeAlso.fields
  | stateful => Stateful.fields
  | restriction => Restriction.fields
  | restricted => Restricted.fields
  | systemResourceConsideration => SystemResourceConsideration.fields
  | useCase => UseCase.fields
  | processorConfiguration => ProcessorConfiguration.fields
  | multiProcessorUseCase => MultiProcessorUseCase.fields
  | defaultSchedule => DefaultSchedule.fields
  | defaultSettings => DefaultSettings.fields
  | relationship => Relationship.fields
  | dynamicRelationship => DynamicRelationship.fields
  | attributeDescriptor => AttributeDescriptor.fields
  | component => Component.fields
  | request => Request.fields

def Reads (record : Record) (json : Json) (value : record.Value) : Prop :=
  ∃ origin, record.shape.ofJson origin json = .ok value

end Record

/-- An object with these members has the field. -/
def RecordField.On {α : Type} (field : RecordField α) (members : Members) : Prop :=
  ∀ category, field.kind = some category → Category.Tags (.object members) category

/-- What a field contains stands under its key in an object, or at its position in a list. A
component is never a list. -/
inductive Spot {record : Record} (field : RecordField record.Value) : (Json → Json) → Prop
  | key (gap : Gap) (known : field ∈ record.fields) (named : gap.key = field.key)
      (on : field.On (gap.fill none)) : Spot field fun json => .object (gap.fill (some json))
  | position (before after : List Json) (known : record.fields[before.length]? = some field)
      (listed : record ≠ .component) : Spot field fun json => .array (before ++ json :: after)

/-- A record among the contents of a field, in JSON. -/
inductive Contents.Has {α : Type} : Contents α → Record → (Json → Json) → Prop
  | record {inner : Record} {put : inner.Value → α → α} : Has (.record inner put) inner fun json => json
  | item {inner : Record} {put : List inner.Value → α → α} (before after : List Json) :
      Has (.list inner put) inner fun json => .array (before ++ json :: after)
  | entry {inner : Record} {put : List (String × inner.Value) → α → α} (before : Members) (key : String)
      (after : Members) : Has (.table inner put) inner fun json => .object (before ++ (key, json) :: after)

/-- `write` puts an object that is read as the inner record somewhere into one that is read as the
outer record. -/
inductive Inside : Record → Record → (Json → Json) → Prop
  | here (record : Record) : Inside record record fun json => json
  | deeper {outer middle inner : Record} {field : RecordField outer.Value} {around within write : Json → Json}
      (spot : Spot field around) (has : field.contents.Has middle within) (inside : Inside middle inner write) :
      Inside outer inner fun json => around (within (write json))

/-- A record among the contents of a field, in JSON and in what is read from it: `fill` puts the
record into the whole, with the others that are read beside it. -/
inductive Contents.Keeps {α : Type} : Contents α → (inner : Record) → (Json → Json) →
    (inner.Value → α → α) → Prop
  | record {inner : Record} {put : inner.Value → α → α} :
      Keeps (.record inner put) inner (fun json => json) put
  | item {inner : Record} {put : List inner.Value → α → α} {before after : List Json}
      {first rest : List inner.Value} (reads : List.Forall₂ inner.Reads before first)
      (reads' : List.Forall₂ inner.Reads after rest) :
      Keeps (.list inner put) inner (fun json => .array (before ++ json :: after))
        fun value => put (first ++ value :: rest)
  | entry {inner : Record} {put : List (String × inner.Value) → α → α} {before after : Members}
      {key : String} {first rest : List (String × inner.Value)}
      (reads : List.Forall₂ (fun member entry => member.1 = entry.1 ∧ inner.Reads member.2 entry.2) before first)
      (reads' : List.Forall₂ (fun member entry => member.1 = entry.1 ∧ inner.Reads member.2 entry.2) after rest) :
      Keeps (.table inner put) inner (fun json => .object (before ++ (key, json) :: after))
        fun value => put (first ++ (key, value) :: rest)

/-- A record inside another one, in JSON and in what is read from it: where `write` puts the object
that is read as the record, `fill` puts the record. -/
inductive Frame : (outer inner : Record) → (Json → Json) → (inner.Value → outer.Value) → Prop
  | here (record : Record) : Frame record record (fun json => json) fun value => value
  | deeper {outer middle inner : Record} {field : RecordField outer.Value} {around within write : Json → Json}
      {put : middle.Value → outer.Value → outer.Value} {fill : inner.Value → middle.Value}
      (spot : Spot field around) (keeps : field.contents.Keeps middle within put) (whole : outer.Value)
      (frame : Frame middle inner write fill) :
      Frame outer inner (fun json => around (within (write json))) fun value => put (fill value) whole

end Snapshot

end ComponentDocs
