import ComponentDocs.Proofs.Document.Rule

/-! The grammar of documents: which elements there are at every level, in which order, which
of them may be left out or stand more than once, and what each may hold. -/
namespace ComponentDocs

/-- A member that only components with some trait have, and not always. -/
def Presence.when (holds : Bool) : Presence := if holds then .maybe else .never

namespace Rule

def texts (item : String) : Rule := .list item false .text

def switch : Rule := .flag [true, false]

/-- A condition that is shown only where it holds. -/
def mark : Rule := .flag [true]

def expressionScope : Rule := .word ["NONE", "ENVIRONMENT", "FLOWFILE_ATTRIBUTES"]

def inputRequirement : Rule := .word ["INPUT_REQUIRED", "INPUT_ALLOWED", "INPUT_FORBIDDEN"]

def serviceApi : Rule :=
  .record
    [("className", .always, .text),
     ("groupId", .always, .text),
     ("artifactId", .always, .text),
     ("version", .always, .text)]

def allowableValue : Rule :=
  .record
    [("displayName", .always, .text),
     ("value", .always, .text),
     ("description", .always, .note)]

def resourceDefinition : Rule :=
  .record
    [("cardinality", .always, .word ["SINGLE", "MULTIPLE"]),
     ("resourceTypes", .always,
       .list "resourceType" false (.word ["FILE", "DIRECTORY", "TEXT", "URL"]))]

def dependency : Rule :=
  .record
    [("propertyName", .always, .text),
     ("propertyDisplayName", .always, .text),
     ("dependentValues", .maybe, texts "dependentValue")]

def property : Rule :=
  .record
    [("name", .always, .text),
     ("displayName", .always, .text),
     ("description", .always, .note),
     ("defaultValue", .maybe, .text),
     ("controllerServiceDefinition", .maybe, serviceApi),
     ("allowableValues", .maybe, .list "allowableValue" true allowableValue),
     ("required", .always, switch),
     ("sensitive", .always, switch),
     ("expressionLanguageSupported", .always, switch),
     ("expressionLanguageScope", .maybe, expressionScope),
     ("dynamicallyModifiesClasspath", .always, switch),
     ("dynamic", .always, switch),
     ("resourceDefinition", .maybe, resourceDefinition),
     ("dependencies", .maybe, .list "dependency" true dependency)]

def dynamicProperty : Rule :=
  .record
    [("name", .always, .text),
     ("value", .always, .text),
     ("description", .always, .text),
     ("expressionLanguageScope", .always, expressionScope)]

def relationship : Rule :=
  .record
    [("name", .always, .text),
     ("description", .always, .text),
     ("autoTerminated", .always, switch)]

def named : Rule := .record [("name", .always, .text), ("description", .always, .text)]

def defaultSettings : Rule :=
  .record
    [("yieldDuration", .always, .text),
     ("penaltyDuration", .always, .text),
     ("bulletinLevel", .always, .word ["DEBUG", "INFO", "WARN", "ERROR", "NONE"])]

def deprecationNotice : Rule :=
  .record [("reason", .always, .text), ("alternatives", .always, texts "alternative")]

def stateful : Rule :=
  .record
    [("description", .always, .text),
     ("scopes", .always, .list "scope" false (.word ["CLUSTER", "LOCAL"]))]

def restriction : Rule :=
  .record
    [("requiredPermission", .always, .label
       ["read filesystem", "write filesystem", "read distributed filesystem",
        "write distributed filesystem", "execute code", "access keytab", "access ticket cache",
        "access environment credentials", "export nifi details", "reference remote resources"]),
     ("explanation", .always, .text)]

def restricted : Rule :=
  .record
    [("generalRestrictionExplanation", .maybe, .text),
     ("restrictions", .always, .list "restriction" false restriction)]

def resourceUse : Rule :=
  .record
    [("resource", .always, .word ["CPU", "DISK", "MEMORY", "NETWORK"]),
     ("description", .always, .text)]

def useCase : Rule :=
  .record
    [("description", .always, .text),
     ("notes", .always, .text),
     ("keywords", .always, texts "keyword"),
     ("inputRequirement", .always, inputRequirement),
     ("configuration", .always, .text)]

def multiProcessorUseCase : Rule :=
  .record
    [("description", .always, .text),
     ("notes", .always, .text),
     ("keywords", .always, texts "keyword"),
     ("processorConfigurations", .always, .list "processorConfiguration" false
       (.record [("processorClassName", .always, .text), ("configuration", .always, .text)]))]

def defaultSchedule : Rule :=
  .record
    [("strategy", .always, .word ["TIMER_DRIVEN", "CRON_DRIVEN"]),
     ("period", .always, .text),
     ("concurrentTasks", .always, .count)]

def processorSections (category : Category) : List (String × Presence × Rule) :=
  let gate := Presence.when (category = .processor)
  [("relationships", gate, .list "relationship" true relationship),
   ("dynamicRelationship", gate, named),
   ("readsAttributes", gate, .list "readsAttribute" true named),
   ("writesAttributes", gate, .list "writesAttribute" true named),
   ("triggerSerially", gate, mark),
   ("triggerWhenEmpty", gate, mark),
   ("triggerWhenAnyDestinationAvailable", gate, mark),
   ("supportsBatching", gate, mark),
   ("primaryNodeOnly", gate, mark),
   ("sideEffectFree", gate, mark),
   ("defaultSettings", gate, defaultSettings)]

def sections (category : Category) : List (String × Presence × Rule) :=
  [("name", .always, .text),
   ("type", .always, .word [Vocabulary.name category]),
   ("deprecationNotice", .maybe, deprecationNotice),
   ("description", .maybe, .text),
   ("tags", .always, texts "tag"),
   ("properties", .maybe, .list "property" true property),
   ("dynamicProperties", .maybe, .list "dynamicProperty" true dynamicProperty),
   ("supportsSensitiveDynamicProperties", .maybe, mark)] ++
  processorSections category ++
  [("stateful", .maybe, stateful),
   ("restricted", .maybe, restricted),
   ("inputRequirement", .maybe, inputRequirement),
   ("systemResourceConsiderations", .maybe, .list "systemResourceConsideration" true resourceUse),
   ("useCases", .maybe, .list "useCase" true useCase),
   ("multiProcessorUseCases", .maybe, .list "multiProcessorUseCase" true multiProcessorUseCase),
   ("seeAlso", .maybe, .list "see" true .text),
   ("defaultSchedule", .maybe, defaultSchedule)] ++
  [("providedServiceAPIs", .when (category = .controllerService),
    .list "providedServiceAPI" true serviceApi)]

def extension (category : Category) : Rule := .record (sections category)

theorem extension_check (category : Category) :
    (extension category).check Json.nestingLimit "extension" := by
  have processor : (extension .processor).check Json.nestingLimit "extension" := by decide +kernel
  exact check_of_same rfl rfl processor

section Places

variable {α : Type} {rule : Rule} {content : α → Content}

theorem admits_always {name : String} {rules : List (String × Presence × Rule)}
    {members : List (String × Content)} {content : Content} (admits : rule.Admits content)
    (others : AdmitsMembers rules members) :
    AdmitsMembers ((name, .always, rule) :: rules) ((name, content) :: members) :=
  .inr ⟨by decide, content, members, rfl, admits, others⟩

theorem fits_some {content : Content} (admits : rule.Admits content) :
    Fits .always rule (some content) :=
  ⟨by decide, admits⟩

theorem fits_map (each : ∀ value, rule.Admits (content value)) (value : Option α) :
    Fits .maybe rule (value.map content) := by
  cases value with
  | none => exact fun absurd => by cases absurd
  | some value => exact ⟨by decide, each value⟩

theorem admits_listing {item : String} (each : ∀ value, rule.Admits (content value))
    (values : List α) : Admits (.list item false rule) (.list item (values.map content)) := by
  simp only [Admits, Bool.false_eq_true, false_implies, true_and]
  exact List.forall_mem_map.mpr fun value _ => each value

theorem fits_listed {item : String} (each : ∀ value, rule.Admits (content value))
    (values : List α) : Fits .maybe (.list item true rule) (Content.listed item content values) := by
  cases values with
  | nil => exact fun absurd => by cases absurd
  | cons first values =>
    refine ⟨by decide, ?_⟩
    simp only [Admits, true_and]
    exact ⟨fun _ => by simp, List.forall_mem_map.mpr fun value _ => each value⟩

theorem fits_held (holds : Bool) : Fits .maybe mark (Content.held holds) := by
  cases holds with
  | false => exact fun absurd => by cases absurd
  | true => exact ⟨by decide, by simp [mark, Admits]⟩

theorem fits_when {holds : Bool} {place : Option Content}
    (fits : holds = true → Fits .maybe rule place) (absent : holds = false → place = none) :
    Fits (.when holds) rule place := by
  cases holds with
  | false =>
    rw [absent rfl]
    exact fun absurd => by cases absurd
  | true => exact fits rfl

theorem fits_processor {place : ProcessorMetadata → Option Content}
    (fits : ∀ metadata, Fits .maybe rule (place metadata)) (kind : Kind) :
    Fits (.when (kind.category = .processor)) rule (kind.processor?.bind place) := by
  cases kind with
  | processor metadata => exact fits metadata
  | _ => exact fun absurd => by cases absurd

theorem admits_text (value : String) : text.Admits (.text value) := by
  simp only [Admits]

theorem admits_note (value : Option String) : note.Admits (.ofOption value) := by
  cases value <;> simp only [Content.ofOption, Admits]

theorem admits_switch (value : Bool) : switch.Admits (.flag value) := by
  cases value <;> simp [switch, Admits]

theorem admits_texts (item : String) (values : List String) :
    (texts item).Admits (.texts item values) :=
  admits_listing admits_text values

end Places

theorem admits_expressionScope (scope : ExpressionLanguageScope) :
    expressionScope.Admits (.word scope) := by
  cases scope <;> simp [expressionScope, Content.word, Vocabulary.name, Admits]

theorem admits_inputRequirement (requirement : InputRequirement) :
    inputRequirement.Admits (.word requirement) := by
  cases requirement <;> simp [inputRequirement, Content.word, Vocabulary.name, Admits]

theorem admits_serviceApi (api : ServiceApi) : serviceApi.Admits (.ofServiceApi api) := by
  simp only [serviceApi, Content.ofServiceApi, Admits]
  exact admits_always (admits_text _) (admits_always (admits_text _) (admits_always (admits_text _)
    (admits_always (admits_text _) rfl)))

theorem admits_allowableValue (value : AllowableValue) :
    allowableValue.Admits (.ofAllowableValue value) := by
  simp only [allowableValue, Content.ofAllowableValue, Admits]
  exact admits_always (admits_text _) (admits_always (admits_text _)
    (admits_always (admits_note _) rfl))

theorem admits_resources (resources : ResourceCardinality × List ResourceType) :
    resourceDefinition.Admits (.ofResources resources) := by
  have cardinality : Admits (.word ["SINGLE", "MULTIPLE"]) (.word resources.1) := by
    cases resources.1 <;> simp [Content.word, Vocabulary.name, Admits]
  have type (known : ResourceType) :
      Admits (.word ["FILE", "DIRECTORY", "TEXT", "URL"]) (.word known) := by
    cases known <;> simp [Content.word, Vocabulary.name, Admits]
  simp only [resourceDefinition, Content.ofResources, Admits]
  exact admits_always cardinality (admits_always (admits_listing type _) rfl)

theorem admits_dependency (dependency : PropertyDependency) :
    Rule.dependency.Admits dependency.content := by
  simp only [Rule.dependency, PropertyDependency.content, Admits]
  exact admits_present (fitsAll_cons (fits_some (admits_text _)) (fitsAll_cons
    (fits_some (admits_text _)) (fitsAll_cons (fits_map (admits_texts _) _) rfl)))

theorem admits_property (property : PropertyView) : Rule.property.Admits property.content := by
  simp only [Rule.property, PropertyView.content, Admits]
  refine admits_present ?_
  repeat' apply fitsAll_cons
  · exact fits_some (admits_text _)
  · exact fits_some (admits_text _)
  · exact fits_some (admits_note _)
  · exact fits_map admits_text _
  · exact fits_map admits_serviceApi _
  · exact fits_listed admits_allowableValue _
  · exact fits_some (admits_switch _)
  · exact fits_some (admits_switch _)
  · exact fits_some (admits_switch _)
  · exact fits_map admits_expressionScope _
  · exact fits_some (admits_switch _)
  · exact fits_some (admits_switch _)
  · exact fits_map admits_resources _
  · exact fits_listed admits_dependency _
  · rfl

theorem admits_dynamicProperty (property : DynamicProperty) :
    dynamicProperty.Admits (.ofDynamicProperty property) := by
  simp only [dynamicProperty, Content.ofDynamicProperty, Admits]
  exact admits_always (admits_text _) (admits_always (admits_text _) (admits_always (admits_text _)
    (admits_always (admits_expressionScope _) rfl)))

theorem admits_relationship (declared : Relationship) :
    relationship.Admits (.ofRelationship declared) := by
  simp only [relationship, Content.ofRelationship, Admits]
  exact admits_always (admits_text _) (admits_always (admits_text _)
    (admits_always (admits_switch _) rfl))

theorem admits_dynamicRelationship (declared : DynamicRelationship) :
    named.Admits (.ofDynamicRelationship declared) := by
  simp only [named, Content.ofDynamicRelationship, Admits]
  exact admits_always (admits_text _) (admits_always (admits_text _) rfl)

theorem admits_attribute (descriptor : AttributeDescriptor) :
    named.Admits (.ofAttribute descriptor) := by
  simp only [named, Content.ofAttribute, Admits]
  exact admits_always (admits_text _) (admits_always (admits_text _) rfl)

theorem admits_defaultSettings (settings : DefaultSettings) :
    defaultSettings.Admits (.ofDefaultSettings settings) := by
  have level : Admits (.word ["DEBUG", "INFO", "WARN", "ERROR", "NONE"])
      (.word settings.bulletinLevel) := by
    cases settings.bulletinLevel <;> simp [Content.word, Vocabulary.name, Admits]
  simp only [defaultSettings, Content.ofDefaultSettings, Admits]
  exact admits_always (admits_text _) (admits_always (admits_text _) (admits_always level rfl))

theorem admits_deprecation (deprecation : DeprecationView) :
    deprecationNotice.Admits deprecation.content := by
  simp only [deprecationNotice, DeprecationView.content, Admits]
  exact admits_always (admits_text _) (admits_always (admits_texts _ _) rfl)

theorem admits_stateful (state : Stateful) : stateful.Admits (.ofStateful state) := by
  have scope (known : Scope) : Admits (.word ["CLUSTER", "LOCAL"]) (.word known) := by
    cases known <;> simp [Content.word, Vocabulary.name, Admits]
  simp only [stateful, Content.ofStateful, Admits]
  exact admits_always (admits_text _) (admits_always (admits_listing scope _) rfl)

theorem admits_restriction (limit : Restriction) : restriction.Admits (.ofRestriction limit) := by
  have permission : Admits (.label
       ["read filesystem", "write filesystem", "read distributed filesystem",
        "write distributed filesystem", "execute code", "access keytab", "access ticket cache",
        "access environment credentials", "export nifi details", "reference remote resources"])
      (.ofOption (limit.requiredPermission.map RequiredPermission.wording)) := by
    cases limit.requiredPermission with
    | none => simp only [Option.map_none, Content.ofOption, Admits]
    | some known =>
      simp only [Option.map_some, Content.ofOption, Admits, ← RequiredPermission.label_eq]
      cases known <;> simp [RequiredPermission.label]
  simp only [restriction, Content.ofRestriction, Admits]
  exact admits_always permission (admits_always (admits_text _) rfl)

theorem admits_restricted (limits : RestrictedView) : restricted.Admits limits.content := by
  simp only [restricted, RestrictedView.content, Admits]
  exact admits_present (fitsAll_cons (fits_map admits_text _)
    (fitsAll_cons (fits_some (admits_listing admits_restriction _)) rfl))

theorem admits_resourceUse (use : SystemResource × String) :
    resourceUse.Admits (.ofResourceUse use) := by
  have resource : Admits (.word ["CPU", "DISK", "MEMORY", "NETWORK"]) (.word use.1) := by
    cases use.1 <;> simp [Content.word, Vocabulary.name, Admits]
  simp only [resourceUse, Content.ofResourceUse, Admits]
  exact admits_always resource (admits_always (admits_text _) rfl)

theorem admits_useCase (declared : UseCase) : useCase.Admits (.ofUseCase declared) := by
  simp only [useCase, Content.ofUseCase, Admits]
  exact admits_always (admits_text _) (admits_always (admits_text _) (admits_always
    (admits_texts _ _) (admits_always (admits_inputRequirement _) (admits_always (admits_text _) rfl))))

theorem admits_multiProcessorUseCase (declared : MultiProcessorUseCaseView) :
    multiProcessorUseCase.Admits declared.content := by
  have step (shown : String × String) :
      Admits (.record [("processorClassName", .always, .text), ("configuration", .always, .text)])
        (.ofProcessorConfiguration shown) := by
    simp only [Content.ofProcessorConfiguration, Admits]
    exact admits_always (admits_text _) (admits_always (admits_text _) rfl)
  simp only [multiProcessorUseCase, MultiProcessorUseCaseView.content, Admits]
  exact admits_always (admits_text _) (admits_always (admits_text _) (admits_always
    (admits_texts _ _) (admits_always (admits_listing step _) rfl)))

theorem admits_defaultSchedule (schedule : DefaultSchedule) :
    defaultSchedule.Admits (.ofDefaultSchedule schedule) := by
  have strategy : Admits (.word ["TIMER_DRIVEN", "CRON_DRIVEN"]) (.word schedule.strategy) := by
    cases schedule.strategy <;> simp [Content.word, Vocabulary.name, Admits]
  have tasks : Admits .count (.count schedule.concurrentTasks.toNat) := by
    simp only [Admits]
    exact schedule.concurrentTasks.toNat_lt
  simp only [defaultSchedule, Content.ofDefaultSchedule, Admits]
  exact admits_always strategy (admits_always (admits_text _) (admits_always tasks rfl))

theorem fits_processorSections (kind : Kind) :
    FitsAll (processorSections kind.category) (View.processorSlots kind.processor?) := by
  repeat' apply fitsAll_cons
  · exact fits_processor (fun _ => fits_listed admits_relationship _) kind
  · exact fits_processor (fun _ => fits_map admits_dynamicRelationship _) kind
  · exact fits_processor (fun _ => fits_listed admits_attribute _) kind
  · exact fits_processor (fun _ => fits_listed admits_attribute _) kind
  · exact fits_processor (fun _ => fits_held _) kind
  · exact fits_processor (fun _ => fits_held _) kind
  · exact fits_processor (fun _ => fits_held _) kind
  · exact fits_processor (fun _ => fits_held _) kind
  · exact fits_processor (fun _ => fits_held _) kind
  · exact fits_processor (fun _ => fits_held _) kind
  · exact fits_processor (fun _ => fits_map admits_defaultSettings _) kind
  · rfl

theorem fits_providedApis (request : Request) :
    FitsAll [("providedServiceAPIs", .when (request.component.category = .controllerService),
        .list "providedServiceAPI" true serviceApi)]
      [("providedServiceAPIs",
        Content.listed "providedServiceAPI" Content.ofServiceApi request.view.providedApis)] := by
  refine fitsAll_cons (fits_when (fun _ => fits_listed admits_serviceApi _) fun other => ?_) rfl
  have none : request.providedApis = none := by
    simp only [Request.providedApis, Option.map_eq_none_iff]
    have other := of_decide_eq_false other
    rw [Component.category] at other
    cases known : request.component.kind with
    | controllerService metadata =>
      rw [known] at other
      exact absurd rfl other
    | _ => rfl
  simp only [request.view_providedApis, none, Option.getD_none, Content.listed]

/-- Every document is under the grammar of its category. -/
theorem admits_content (request : Request) :
    (extension request.component.category).Admits request.content := by
  have processor := fits_processorSections request.component.kind
  rw [← request.view_processor] at processor
  simp only [extension, Request.content, View.content, Admits]
  refine admits_present (fitsAll_append (fitsAll_append (fitsAll_append ?_ processor) ?_)
    (fits_providedApis request))
  · have category : Admits (.word [Vocabulary.name request.component.category])
        (.word request.view.category) := by
      simp only [request.view_category, Content.word, Admits, List.mem_singleton]
    repeat' apply fitsAll_cons
    · exact fits_some (admits_text _)
    · exact fits_some category
    · exact fits_map admits_deprecation _
    · exact fits_map admits_text _
    · exact fits_some (admits_texts _ _)
    · exact fits_listed admits_property _
    · exact fits_listed admits_dynamicProperty _
    · exact fits_held _
    · rfl
  · repeat' apply fitsAll_cons
    · exact fits_map admits_stateful _
    · exact fits_map admits_restricted _
    · exact fits_map admits_inputRequirement _
    · exact fits_listed admits_resourceUse _
    · exact fits_listed admits_useCase _
    · exact fits_listed admits_multiProcessorUseCase _
    · exact fits_listed admits_text _
    · exact fits_map admits_defaultSchedule _
    · rfl

end Rule

theorem Request.content_proper (request : Request) :
    request.content.Proper Json.nestingLimit "extension" :=
  Rule.proper_of_admits (Rule.extension_check _) (Rule.admits_content request)

theorem Request.root_named (request : Request) (margin : Option Markup.Margin) :
    (request.content.element margin "extension").isElement ∧
      (request.content.element margin "extension").Named :=
  ⟨rfl, by decide, Content.allNamed_nodes request.content_proper margin⟩

end ComponentDocs
