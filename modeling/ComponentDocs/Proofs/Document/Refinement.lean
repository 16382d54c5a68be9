import ComponentDocs.Json.Hooks
import ComponentDocs.Proofs.Document.Slots
import ComponentDocs.Proofs.Markup.Pen

/-! Both sets of hooks come to one content. What a hook of either format writes for a section is
told apart from the other format and from the snapshot's view; here each hook, and each record that
it writes, is shown to come to what stands in the places of the section. -/
namespace ComponentDocs

/-- A section inside the root: neither the header nor the footer. -/
def Section.IsInner : Section → Prop
  | .header _ | .footer _ => False
  | _ => True

theorem Section.isInner_or (part : Section) :
    part.IsInner ∨ (∃ component, part = .header component) ∨ ∃ component, part = .footer component := by
  cases part with
  | header component => exact .inr (.inl ⟨component, rfl⟩)
  | footer component => exact .inr (.inr ⟨component, rfl⟩)
  | _ => exact .inl trivial

theorem filter_firstOccurrences (keeps : String → Bool) (texts : List String) :
    (firstOccurrences texts).filter keeps = firstOccurrences (texts.filter keeps) := by
  induction texts with
  | nil => rfl
  | cons text texts ih =>
    cases kept : keeps text with
    | true =>
      rw [firstOccurrences, List.filter_cons_of_pos kept, List.filter_cons_of_pos kept,
        firstOccurrences, ← ih, List.filter_filter, List.filter_filter]
      simp only [Bool.and_comm]
    | false =>
      rw [firstOccurrences, List.filter_cons_of_neg (by simp [kept]),
        List.filter_cons_of_neg (by simp [kept]), ← ih, List.filter_filter]
      refine List.filter_congr fun other _ => ?_
      by_cases same : other = text
      · simp [same, kept]
      · simp [same]

/-- The induction is on the length, since what is kept of the rest has no text twice to begin
with. -/
theorem eraseDups_eq_firstOccurrences (texts : List String) :
    texts.eraseDups = firstOccurrences texts := by
  induction known : texts.length using Nat.strongRecOn generalizing texts with
  | ind size ih =>
    cases texts with
    | nil => rfl
    | cons text texts =>
      have shorter : (texts.filter fun other => !other == text).length < size := by
        have := List.length_filter_le (fun other => !other == text) texts
        simp only [List.length_cons] at known
        omega
      rw [List.eraseDups_cons, firstOccurrences, ih _ shorter _ rfl, ← filter_firstOccurrences]
      simp only [decide_not, Bool.beq_eq_decide_eq]

theorem RequiredPermission.label_eq (permission : RequiredPermission) :
    permission.label = permission.wording := by
  cases permission <;> rfl

theorem Restricted.view_explanation (restricted : Restricted) :
    restricted.view.explanation =
      restricted.generalRestrictionExplanation.filter fun text => !text.isEmpty := by
  cases known : restricted.generalRestrictionExplanation with
  | none => simp only [view, known, Option.filter_none]
  | some text => by_cases empty : text = "" <;> simp [view, known, empty, Option.filter_some]

theorem ProcessorConfiguration.view_eq (step : ProcessorConfiguration) :
    step.view = (step.shownClassName, step.configuration) := by
  have shown : step.view.1 = step.shownClassName := by
    by_cases empty : step.processorClassName = "" <;> cases known : step.processorClass <;>
      simp [view, shownClassName, empty, known]
  exact Prod.ext shown rfl

theorem SystemResourceConsideration.uses_eq (considerations : List SystemResourceConsideration) :
    uses considerations = considerations.filterMap fun consideration =>
      consideration.resource.map fun resource => (resource, consideration.description) := by
  induction considerations with
  | nil => rfl
  | cons consideration considerations ih =>
    obtain ⟨_ | resource, description⟩ := consideration
    · exact ih
    · simp only [uses, ih, List.filterMap_cons, Option.map_some]

theorem PropertyDescriptor.view_displayName (property : PropertyDescriptor)
    (services : PropertyServices) : (property.view services).displayName = property.shownName := by
  cases known : property.displayName <;> simp [view, shownName, known]

namespace Markup.Step

open Content (held listed memberEvents present word)

theorem events_element (name : String) (inside : List Step) :
    events (element name inside) = .start name :: (events inside ++ [.finish]) :=
  congrArg (List.cons _) (events_append inside [.emit .finish])

theorem events_text (name : String) (value : Option String) :
    events (text name value) = (Content.ofOption value).events name := by
  cases value <;> rfl

theorem events_bool (name : String) (value : Bool) :
    events (bool name value) = (Content.flag value).events name := by
  cases value <;> rfl

theorem events_array {α : Type} {item : String} {steps : α → List Step} {content : α → Content}
    (name : String) (each : ∀ value, events (steps value) = (content value).events item)
    (items : List α) :
    events (array name items steps) = (Content.list item (items.map content)).events name := by
  have all (items : List α) :
      events (items.flatMap steps) = Content.itemEvents item (items.map content) := by
    induction items with
    | nil => rfl
    | cons first items ih =>
      rw [List.flatMap_cons, events_append, each, ih, List.map_cons, Content.itemEvents]
  rw [array, events_element, events_append, all]
  cases items with
  | nil => rfl
  | cons first items =>
    simp only [List.isEmpty_cons, Bool.false_eq_true, if_false, List.map_cons, Content.events]
    exact congrArg _ (congrArg (· ++ _) (List.append_nil _))

theorem events_texts (name item : String) (values : List String) :
    events (texts name item values) = (Content.texts item values).events name :=
  events_array name (fun value => events_text item (some value)) values

theorem events_words {α : Type} [Vocabulary α] (name item : String) (values : List α) :
    events (texts name item (values.map Vocabulary.name)) =
      (Content.list item (values.map word)).events name := by
  rw [events_texts, Content.texts, List.map_map]
  rfl

/-- Steps that come to the members standing in some places. -/
def Writes (steps : List Step) (slots : Slots) : Prop := events steps = memberEvents (present slots)

section Places

variable {α : Type} {key item : String} {content : α → Content} {steps : α → List Step}

theorem Writes.append {first second : List Step} {slots others : Slots}
    (written : Writes first slots) (rest : Writes second others) :
    Writes (first ++ second) (slots ++ others) := by
  rw [Writes, events_append, written, rest, ← Content.memberEvents_append, ← Content.present_append]

theorem writes_some {steps : List Step} {content : Content}
    (written : events steps = content.events key) : Writes steps [(key, some content)] :=
  written.trans (List.append_nil _).symm

theorem writes_text (key value : String) :
    Writes (text key (some value)) [(key, some (.text value))] :=
  writes_some (events_text key (some value))

theorem writes_note (key : String) (value : Option String) :
    Writes (text key value) [(key, some (.ofOption value))] := writes_some (events_text key value)

theorem writes_bool (key : String) (value : Bool) :
    Writes (bool key value) [(key, some (.flag value))] := writes_some (events_bool key value)

theorem writes_texts (key item : String) (values : List String) :
    Writes (texts key item values) [(key, some (.texts item values))] :=
  writes_some (events_texts key item values)

theorem writes_array (key : String)
    (written : ∀ value, events (steps value) = (content value).events item) (items : List α) :
    Writes (array key items steps) [(key, some (.list item (items.map content)))] :=
  writes_some (events_array key written items)

theorem writes_flag (key : String) (present : Bool) :
    Writes (flag key present) [(key, held present)] := by
  cases present <;> rfl

theorem writes_given (written : ∀ value, events (steps value) = (content value).events key)
    (value : Option α) : Writes (given value steps) [(key, value.map content)] := by
  cases value with
  | none => rfl
  | some value => exact writes_some (written value)

theorem writes_listed (key : String)
    (written : ∀ value, events (steps value) = (content value).events item) (items : List α) :
    Writes (if items.isEmpty then [] else array key items steps)
      [(key, listed item content items)] := by
  cases items with
  | nil => rfl
  | cons first items => exact writes_array key written (first :: items)

theorem events_record {name : String} {inside : List Step} {slots : Slots}
    (written : Writes inside slots) :
    events (element name inside) = (Content.record (present slots)).events name := by
  rw [events_element, written, Content.events]

end Places

section Records

theorem writes_serviceApi (api : ServiceApi) : Writes (serviceApiFields api)
    [("className", some (.text api.className)), ("groupId", some (.text api.groupId)),
     ("artifactId", some (.text api.artifactId)), ("version", some (.text api.version))] :=
  writes_text "className" api.className
    |>.append (writes_text "groupId" api.groupId)
    |>.append (writes_text "artifactId" api.artifactId)
    |>.append (writes_text "version" api.version)

theorem events_serviceApi (name : String) (api : ServiceApi) :
    events (element name (serviceApiFields api)) = (Content.ofServiceApi api).events name :=
  events_record (writes_serviceApi api)

/-- The placeholders are written as if they had been found. -/
theorem events_service (services : PropertyServices) (property : PropertyDescriptor)
    (className : String) :
    events (service services property className) =
      (Content.ofServiceApi (match services.find? property.name with
        | some api => api
        | none => ⟨className, "unknown", "unknown", "unknown"⟩)).events
        "controllerServiceDefinition" := by
  rw [service]
  cases services.find? property.name with
  | some api => exact events_serviceApi _ api
  | none => exact events_serviceApi _ ⟨className, "unknown", "unknown", "unknown"⟩

theorem events_allowableValue (value : AllowableValue) :
    events (allowableValue value) = (Content.ofAllowableValue value).events "allowableValue" := by
  have written := writes_text "displayName" value.displayName
    |>.append (writes_text "value" value.value)
    |>.append (writes_note "description" value.description)
  exact events_record written

theorem events_dependency (dependency : PropertyDependency) :
    events (Step.dependency dependency) = dependency.content.events "dependency" := by
  have written := writes_text "propertyName" dependency.propertyName
    |>.append (writes_text "propertyDisplayName" dependency.propertyDisplayName)
    |>.append (writes_given (events_texts "dependentValues" "dependentValue")
      dependency.dependentValues)
  exact events_record written

theorem writes_resources (property : PropertyDescriptor) (services : PropertyServices) :
    Writes (given property.resourceDefinition resources)
      [("resourceDefinition", (property.view services).resources.map .ofResources)] := by
  rw [PropertyDescriptor.view]
  cases property.resourceDefinition with
  | none => rfl
  | some resource =>
    obtain ⟨_ | cardinality, types⟩ := resource
    · rfl
    · have written := writes_text "cardinality" (Vocabulary.name cardinality)
        |>.append (writes_some (events_words "resourceTypes" "resourceType" types))
      exact writes_some (events_record written)

theorem events_property (services : PropertyServices) (property : PropertyDescriptor) :
    events (Step.property services property) = (property.view services).content.events "property" := by
  have service : Writes (given property.controllerServiceDefinition (service services property))
      [("controllerServiceDefinition", (property.view services).service.map .ofServiceApi)] := by
    rw [PropertyDescriptor.view]
    cases property.controllerServiceDefinition with
    | none => rfl
    | some className =>
      refine (writes_some (events_service services property className)).trans ?_
      cases services.find? property.name <;> rfl
  have shown : Writes (text "displayName" (some property.shownName))
      [("displayName", some (.text (property.view services).displayName))] := by
    rw [property.view_displayName]
    exact writes_text _ _
  have written := writes_text "name" property.name
    |>.append shown
    |>.append (writes_note "description" property.description)
    |>.append (writes_given (fun value => events_text "defaultValue" (some value)) property.defaultValue)
    |>.append service
    |>.append (writes_listed "allowableValues" events_allowableValue property.allowableValues)
    |>.append (writes_bool "required" property.required)
    |>.append (writes_bool "sensitive" property.sensitive)
    |>.append (writes_bool "expressionLanguageSupported" property.expressionLanguageSupported)
    |>.append (writes_given (fun scope => events_text "expressionLanguageScope"
      (some (Vocabulary.name scope))) property.expressionLanguageScope)
    |>.append (writes_bool "dynamicallyModifiesClasspath" property.dynamicallyModifiesClasspath)
    |>.append (writes_bool "dynamic" property.dynamic)
    |>.append (writes_resources property services)
    |>.append (writes_listed "dependencies" events_dependency property.dependencies)
  rw [Step.property, events_record written]
  rfl

theorem events_dynamicProperty (property : DynamicProperty) :
    events (dynamicProperty property) =
      (Content.ofDynamicProperty property).events "dynamicProperty" := by
  have written := writes_text "name" property.name
    |>.append (writes_text "value" property.value)
    |>.append (writes_text "description" property.description)
    |>.append (writes_text "expressionLanguageScope" (Vocabulary.name property.expressionLanguageScope))
  exact events_record written

theorem events_relationship (declared : Relationship) :
    events (relationship declared) = (Content.ofRelationship declared).events "relationship" := by
  have written := writes_text "name" declared.name
    |>.append (writes_text "description" declared.description)
    |>.append (writes_bool "autoTerminated" declared.autoTerminated)
  exact events_record written

theorem events_dynamicRelationship (declared : DynamicRelationship) :
    events (dynamicRelationship declared) =
      (Content.ofDynamicRelationship declared).events "dynamicRelationship" := by
  have written := writes_text "name" declared.name
    |>.append (writes_text "description" declared.description)
  exact events_record written

theorem events_attribute (name : String) (descriptor : AttributeDescriptor) :
    events (attributeNamed name descriptor) = (Content.ofAttribute descriptor).events name := by
  have written := writes_text "name" descriptor.name
    |>.append (writes_text "description" descriptor.description)
  exact events_record written

theorem events_deprecationNotice (notice : DeprecationNotice) :
    events (deprecationNotice notice) = notice.view.content.events "deprecationNotice" := by
  have written := writes_text "reason" notice.reason
    |>.append (writes_texts "alternatives" "alternative" notice.merged)
  rw [deprecationNotice, events_record written, DeprecationNotice.merged,
    eraseDups_eq_firstOccurrences]
  rfl

theorem events_defaultSettings (settings : DefaultSettings) :
    events (defaultSettings settings) =
      (Content.ofDefaultSettings settings).events "defaultSettings" := by
  have written := writes_text "yieldDuration" settings.yieldDuration
    |>.append (writes_text "penaltyDuration" settings.penaltyDuration)
    |>.append (writes_text "bulletinLevel" (Vocabulary.name settings.bulletinLevel))
  exact events_record written

theorem events_stateful (state : Stateful) :
    events (stateful state) = (Content.ofStateful state).events "stateful" := by
  have written := writes_text "description" state.description
    |>.append (writes_some (events_words "scopes" "scope" state.scopes))
  exact events_record written

theorem events_restriction (limit : Restriction) :
    events (restriction limit) = (Content.ofRestriction limit).events "restriction" := by
  have written := writes_note "requiredPermission"
      (limit.requiredPermission.map RequiredPermission.label)
    |>.append (writes_text "explanation" limit.explanation)
  rw [funext RequiredPermission.label_eq] at written
  rw [restriction, funext RequiredPermission.label_eq]
  exact events_record written

theorem events_restricted (limits : Restricted) :
    events (restricted limits) = limits.view.content.events "restricted" := by
  have written := writes_given (fun text => events_text "generalRestrictionExplanation" (some text))
      (limits.generalRestrictionExplanation.filter fun text => !text.isEmpty)
    |>.append (writes_array "restrictions" events_restriction limits.restrictions)
  rw [restricted, events_record written, ← limits.view_explanation]
  rfl

theorem events_resourceUse (use : SystemResource × String) :
    events (resourceUse use) = (Content.ofResourceUse use).events "systemResourceConsideration" := by
  have written := writes_text "resource" (Vocabulary.name use.1)
    |>.append (writes_text "description" use.2)
  exact events_record written

theorem events_useCase (declared : UseCase) :
    events (useCase declared) = (Content.ofUseCase declared).events "useCase" := by
  have written := writes_text "description" declared.description
    |>.append (writes_text "notes" declared.notes)
    |>.append (writes_texts "keywords" "keyword" declared.keywords)
    |>.append (writes_text "inputRequirement" (Vocabulary.name declared.inputRequirement))
    |>.append (writes_text "configuration" declared.configuration)
  exact events_record written

theorem events_defaultSchedule (schedule : DefaultSchedule) :
    events (defaultSchedule schedule) =
      (Content.ofDefaultSchedule schedule).events "defaultSchedule" := by
  have written := writes_text "strategy" (Vocabulary.name schedule.strategy)
    |>.append (writes_text "period" schedule.period)
    |>.append (writes_text "concurrentTasks" (toString schedule.concurrentTasks.toNat))
  exact events_record written

theorem events_processorConfiguration (step : ProcessorConfiguration) :
    events (processorConfiguration step) =
      (Content.ofProcessorConfiguration step.view).events "processorConfiguration" := by
  have written := writes_text "processorClassName" step.shownClassName
    |>.append (writes_text "configuration" step.configuration)
  rw [processorConfiguration, events_record written, step.view_eq]
  rfl

theorem events_multiProcessorUseCase (declared : MultiProcessorUseCase) :
    events (multiProcessorUseCase declared) =
      declared.view.content.events "multiProcessorUseCase" := by
  have written := writes_text "description" declared.description
    |>.append (writes_text "notes" declared.notes)
    |>.append (writes_texts "keywords" "keyword" declared.keywords)
    |>.append (writes_array "processorConfigurations" events_processorConfiguration
      declared.configurations)
  rw [multiProcessorUseCase, events_record written, MultiProcessorUseCaseView.content,
    MultiProcessorUseCase.view, List.map_map]
  rfl

theorem writes_seeAlso (related : Option SeeAlso) :
    Writes (seeAlso related) (Section.seeAlso related).slots := by
  cases related with
  | none => rfl
  | some related =>
    rw [Section.slots, ← eraseDups_eq_firstOccurrences]
    exact writes_listed "seeAlso" (fun text => events_text "see" (some text)) related.merged

end Records

/-- What is written for a section is what stands in its place, whatever is told to the log. -/
theorem writes_section {part : Section} (inner : part.IsInner) (declares : Bool) :
    Writes (ofSection declares part) part.slots := by
  cases part with
  | header | footer => exact inner.elim
  | name className => exact writes_text _ _
  | category value => exact writes_text _ _
  | tags values => exact writes_texts _ _ _
  | supportsSensitiveDynamicProperties present
  | triggerSerially present
  | triggerWhenEmpty present
  | triggerWhenAnyDestinationAvailable present
  | supportsBatching present
  | primaryNodeOnly present
  | sideEffectFree present => exact writes_flag _ present
  | properties declared services =>
    have listed := writes_listed "properties" (events_property services) declared
    cases declared with
    | nil => rfl
    | cons first others => exact listed
  | dynamicProperties declared => exact writes_listed _ events_dynamicProperty declared
  | relationships set => exact writes_listed _ events_relationship set.toList
  | readsAttributes attributes => exact writes_listed _ (events_attribute _) attributes
  | writesAttributes attributes => exact writes_listed _ (events_attribute _) attributes
  | useCases cases => exact writes_listed _ events_useCase cases
  | multiProcessorUseCases cases => exact writes_listed _ events_multiProcessorUseCase cases
  | systemResourceConsiderations considerations =>
    rw [ofSection, Step.considerations, Section.slots, SystemResourceConsideration.uses_eq]
    exact writes_listed _ events_resourceUse _
  | providedServiceApis apis =>
    exact writes_listed _ (events_serviceApi "providedServiceAPI") apis
  | deprecationNotice notice => exact writes_given events_deprecationNotice notice
  | description value =>
    exact writes_given (fun value => events_text "description" (some value)) value
  | dynamicRelationship declared => exact writes_given events_dynamicRelationship declared
  | defaultSettings settings => exact writes_given events_defaultSettings settings
  | stateful state => exact writes_given events_stateful state
  | restricted limits => exact writes_given events_restricted limits
  | inputRequirement requirement =>
    exact writes_given (fun requirement => events_text "inputRequirement"
      (some (Vocabulary.name requirement))) requirement
  | defaultSchedule schedule => exact writes_given events_defaultSchedule schedule
  | seeAlso related => exact writes_seeAlso related

end Markup.Step

namespace Json

open Content (held jsonMembers listed present word)

theorem json_text (value : String) : (Content.text value).json = .string value := rfl

theorem json_flag (value : Bool) : (Content.flag value).json = .bool value := rfl

theorem json_word {α : Type} [Vocabulary α] (value : α) :
    (word value).json = .string (Vocabulary.name value) := rfl

theorem json_ofOption (value : Option String) : (Content.ofOption value).json = ofText? value := by
  cases value <;> rfl

theorem json_list {α : Type} {content : α → Content} {ofValue : α → Json} (item : String)
    (same : ∀ value, (content value).json = ofValue value) (items : List α) :
    (Content.list item (items.map content)).json = .array (items.map ofValue) := by
  simp only [Content.json, Content.jsonItems_eq_map, List.map_map]
  exact congrArg _ (List.map_congr_left fun value _ => same value)

theorem json_texts (item : String) (values : List String) :
    (Content.texts item values).json = ofStrings values := json_list item (fun _ => rfl) values

theorem json_words {α : Type} [Vocabulary α] (item : String) (values : List α) :
    (Content.list item (values.map word)).json = ofStrings (values.map Vocabulary.name) := by
  rw [ofStrings, List.map_map]
  exact json_list item (fun _ => rfl) values

/-- Members that stand in some places. -/
def Gathers (members : Members) (slots : Slots) : Prop := members = jsonMembers (present slots)

section Places

variable {α : Type} {content : α → Content} {ofValue : α → Json}

theorem Gathers.append {first second : Members} {slots others : Slots}
    (gathered : Gathers first slots) (rest : Gathers second others) :
    Gathers (first ++ second) (slots ++ others) := by
  rw [Gathers, gathered, rest, Content.present_append, Content.jsonMembers_append]

theorem gathers_some (key : String) {content : Content} {value : Json} (same : content.json = value) :
    Gathers [(key, value)] [(key, some content)] := by
  rw [← same]
  rfl

theorem gathers_given (key : String) (same : ∀ value, (content value).json = ofValue value)
    (value : Option α) : Gathers (given key value ofValue) [(key, value.map content)] := by
  cases value with
  | none => rfl
  | some value => exact gathers_some key (same value)

theorem gathers_listed (key item : String) (same : ∀ value, (content value).json = ofValue value)
    (items : List α) :
    Gathers (if items.isEmpty then [] else [(key, .array (items.map ofValue))])
      [(key, listed item content items)] := by
  cases items with
  | nil => rfl
  | cons first items => exact gathers_some key (json_list item same (first :: items))

end Places

section Records

theorem json_serviceApi (api : ServiceApi) : (Content.ofServiceApi api).json = ofServiceApi api := rfl

theorem json_allowableValue (value : AllowableValue) :
    (Content.ofAllowableValue value).json = ofAllowableValue value := by
  rw [ofAllowableValue, ← json_ofOption]
  rfl

theorem json_dependency (dependency : PropertyDependency) :
    dependency.content.json = ofDependency dependency := by
  have gathered := gathers_some "propertyName" (json_text dependency.propertyName)
    |>.append (gathers_some "propertyDisplayName" (json_text dependency.propertyDisplayName))
    |>.append (gathers_given "dependentValues" (json_texts "dependentValue") dependency.dependentValues)
  exact congrArg Json.object gathered.symm

/-- The placeholders are gathered as if they had been found. -/
theorem json_service (services : PropertyServices) (property : PropertyDescriptor) :
    given "controllerServiceDefinition" property.controllerServiceDefinition
        (ofService services property) =
      jsonMembers (present [("controllerServiceDefinition",
        (property.view services).service.map .ofServiceApi)]) := by
  cases declared : property.controllerServiceDefinition with
  | none => simp only [PropertyDescriptor.view, declared]; rfl
  | some className =>
    cases found : services.find? property.name <;>
      simp only [given, ofService, PropertyDescriptor.view, declared, found] <;> rfl

theorem json_resources (property : PropertyDescriptor) (services : PropertyServices) :
    given "resourceDefinition"
        (property.resourceDefinition.bind fun resource =>
          resource.cardinality.map fun cardinality => (cardinality, resource.resourceTypes))
        ofResources =
      jsonMembers (present [("resourceDefinition",
        (property.view services).resources.map .ofResources)]) := by
  have known : (property.view services).resources =
      property.resourceDefinition.bind fun resource =>
        resource.cardinality.map fun cardinality => (cardinality, resource.resourceTypes) := by
    rw [PropertyDescriptor.view]
    cases property.resourceDefinition with
    | none => rfl
    | some resource => obtain ⟨_ | cardinality, types⟩ := resource <;> rfl
  rw [known]
  refine gathers_given "resourceDefinition" (fun resources => ?_) _
  have gathered := gathers_some "cardinality" (json_text (Vocabulary.name resources.1))
    |>.append (gathers_some "resourceTypes" (json_words "resourceType" resources.2))
  exact congrArg Json.object gathered.symm

theorem json_property (services : PropertyServices) (property : PropertyDescriptor) :
    (property.view services).content.json = ofProperty services property := by
  have shown : Gathers [("displayName", .string property.shownName)]
      [("displayName", some (.text (property.view services).displayName))] := by
    rw [property.view_displayName]
    exact gathers_some _ (json_text _)
  have names := gathers_some "name" (json_text property.name)
    |>.append shown
    |>.append (gathers_some "description" (json_ofOption property.description))
  have switches := gathers_some "required" (json_flag property.required)
    |>.append (gathers_some "sensitive" (json_flag property.sensitive))
    |>.append (gathers_some "expressionLanguageSupported" (json_flag property.expressionLanguageSupported))
  have effects := gathers_some "dynamicallyModifiesClasspath" (json_flag property.dynamicallyModifiesClasspath)
    |>.append (gathers_some "dynamic" (json_flag property.dynamic))
  have gathered := names
    |>.append (gathers_given "defaultValue" json_text property.defaultValue)
    |>.append (json_service services property)
    |>.append (gathers_listed "allowableValues" "allowableValue" json_allowableValue
      property.allowableValues)
    |>.append switches
    |>.append (gathers_given "expressionLanguageScope" json_word property.expressionLanguageScope)
    |>.append effects
    |>.append (json_resources property services)
    |>.append (gathers_listed "dependencies" "dependency" json_dependency property.dependencies)
  rw [ofProperty]
  exact congrArg Json.object gathered.symm

theorem json_dynamicProperty (property : DynamicProperty) :
    (Content.ofDynamicProperty property).json = ofDynamicProperty property := rfl

theorem json_relationship (declared : Relationship) :
    (Content.ofRelationship declared).json = ofRelationship declared := rfl

theorem json_dynamicRelationship (declared : DynamicRelationship) :
    (Content.ofDynamicRelationship declared).json = ofDynamicRelationship declared := rfl

theorem json_attribute (descriptor : AttributeDescriptor) :
    (Content.ofAttribute descriptor).json = ofAttribute descriptor := rfl

theorem json_defaultSettings (settings : DefaultSettings) :
    (Content.ofDefaultSettings settings).json = ofDefaultSettings settings := rfl

theorem json_defaultSchedule (schedule : DefaultSchedule) :
    (Content.ofDefaultSchedule schedule).json = ofDefaultSchedule schedule := rfl

theorem json_restriction (limit : Restriction) :
    (Content.ofRestriction limit).json = ofRestriction limit := by
  rw [ofRestriction, funext RequiredPermission.label_eq, ← json_ofOption]
  rfl

theorem json_restricted (limits : Restricted) : limits.view.content.json = ofRestricted limits := by
  have gathered := gathers_given "generalRestrictionExplanation" json_text
      (limits.generalRestrictionExplanation.filter fun text => !text.isEmpty)
    |>.append (gathers_some "restrictions" (json_list "restriction" json_restriction limits.restrictions))
  rw [← limits.view_explanation] at gathered
  rw [ofRestricted, ← limits.view_explanation, gathered]
  rfl

theorem json_deprecationNotice (notice : DeprecationNotice) :
    notice.view.content.json = ofDeprecationNotice notice := by
  rw [ofDeprecationNotice, DeprecationNotice.merged, eraseDups_eq_firstOccurrences,
    ← json_texts "alternative"]
  rfl

theorem json_stateful (state : Stateful) : (Content.ofStateful state).json = ofStateful state := by
  rw [ofStateful, ← json_words "scope"]
  rfl

theorem json_considerations (considerations : List SystemResourceConsideration) :
    considerations.filterMap ofConsideration? =
      (SystemResourceConsideration.uses considerations).map fun use => (Content.ofResourceUse use).json := by
  induction considerations with
  | nil => rfl
  | cons consideration considerations ih =>
    obtain ⟨_ | resource, description⟩ := consideration
    · exact ih
    · exact congrArg (List.cons _) ih

theorem json_useCase (declared : UseCase) : (Content.ofUseCase declared).json = ofUseCase declared := by
  rw [ofUseCase, ← json_texts "keyword"]
  rfl

theorem json_processorConfiguration (step : ProcessorConfiguration) :
    (Content.ofProcessorConfiguration step.view).json = ofProcessorConfiguration step := by
  rw [step.view_eq]
  rfl

theorem json_multiProcessorUseCase (declared : MultiProcessorUseCase) :
    declared.view.content.json = ofMultiProcessorUseCase declared := by
  have steps := json_list "processorConfiguration" json_processorConfiguration declared.configurations
  rw [ofMultiProcessorUseCase, ← json_texts "keyword", ← steps, MultiProcessorUseCaseView.content,
    MultiProcessorUseCase.view, List.map_map]
  rfl

end Records

section Sections

variable {α : Type} {item : String} {content : α → Content} {ofValue : α → Json}

theorem gathers_flag (key : String) (present : Bool) :
    Gathers (flag? key present).toList [(key, held present)] := by
  cases present <;> rfl

theorem gathers_map (key : String) (same : ∀ value, (content value).json = ofValue value)
    (value : Option α) :
    Gathers (value.map fun value => (key, ofValue value)).toList [(key, value.map content)] := by
  cases value with
  | none => rfl
  | some value => exact gathers_some key (same value)

theorem gathers_any (key : String) (same : ∀ value, (content value).json = ofValue value)
    (items : List α) :
    Gathers (if items.isEmpty then none else some (key, Json.array (items.map ofValue))).toList
      [(key, listed item content items)] := by
  cases items with
  | nil => rfl
  | cons first items => exact gathers_some key (json_list item same (first :: items))

/-- What is gathered for a section is what stands in its place. -/
theorem gathers_section {part : Section} (inner : part.IsInner) :
    Gathers (member? part).toList part.slots := by
  cases part with
  | header | footer => exact inner.elim
  | name className => exact gathers_some _ (json_text className)
  | category value => exact gathers_some _ (json_word value)
  | tags values => exact gathers_some _ (json_texts "tag" values)
  | supportsSensitiveDynamicProperties present
  | triggerSerially present
  | triggerWhenEmpty present
  | triggerWhenAnyDestinationAvailable present
  | supportsBatching present
  | primaryNodeOnly present
  | sideEffectFree present => exact gathers_flag _ present
  | deprecationNotice notice => exact gathers_map _ json_deprecationNotice notice
  | description value => exact gathers_map _ json_text value
  | dynamicRelationship declared => exact gathers_map _ json_dynamicRelationship declared
  | defaultSettings settings => exact gathers_map _ json_defaultSettings settings
  | stateful state => exact gathers_map _ json_stateful state
  | restricted limits => exact gathers_map _ json_restricted limits
  | inputRequirement requirement => exact gathers_map _ json_word requirement
  | defaultSchedule schedule => exact gathers_map _ json_defaultSchedule schedule
  | properties declared services => exact gathers_any _ (json_property services) declared
  | dynamicProperties declared => exact gathers_any _ json_dynamicProperty declared
  | relationships set => exact gathers_any _ json_relationship set.toList
  | readsAttributes attributes => exact gathers_any _ json_attribute attributes
  | writesAttributes attributes => exact gathers_any _ json_attribute attributes
  | useCases cases => exact gathers_any _ json_useCase cases
  | multiProcessorUseCases cases => exact gathers_any _ json_multiProcessorUseCase cases
  | systemResourceConsiderations considerations =>
    simp only [member?, json_considerations, List.isEmpty_map, Section.slots]
    exact gathers_any _ (fun use => Eq.refl (Content.ofResourceUse use).json) _
  | providedServiceApis apis => exact gathers_any _ json_serviceApi apis
  | seeAlso related =>
    cases related with
    | none => rfl
    | some related =>
      rw [Section.slots, ← eraseDups_eq_firstOccurrences]
      exact gathers_any _ json_text related.merged

end Sections

end Json

end ComponentDocs
