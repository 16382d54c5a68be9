import ComponentDocs.Proofs.Document.Content
import ComponentDocs.Proofs.Document.View

/-! The content of a document, as its view has it. Every record that a document shows has its
members in a fixed row of named places, some of which may stay empty, so two of them can be
compared place by place. -/
namespace ComponentDocs

/-- Named places in order, each with what stands there. -/
abbrev Slots := List (String × Option Content)

namespace Content

def present : Slots → List (String × Content)
  | [] => []
  | (name, some content) :: slots => (name, content) :: present slots
  | (_, none) :: slots => present slots

/-- A list that takes its place only when it has items. -/
def listed {α : Type} (item : String) (content : α → Content) : List α → Option Content
  | [] => none
  | first :: items => some (.list item ((first :: items).map content))

def held (holds : Bool) : Option Content := if holds then some (.flag true) else none

theorem present_singleton_eq_nil {name : String} {content : Option Content} :
    present [(name, content)] = [] ↔ content = none := by
  cases content <;> simp [present]

theorem listed_eq_none {α : Type} {item : String} {content : α → Content} {items : List α} :
    listed item content items = none ↔ items = [] := by
  cases items <;> simp [listed]

theorem held_eq_none {holds : Bool} : held holds = none ↔ holds = false := by
  cases holds <;> simp [held]

theorem present_append (first second : Slots) :
    present (first ++ second) = present first ++ present second := by
  induction first with
  | nil => rfl
  | cons slot slots ih =>
    obtain ⟨name, _ | content⟩ := slot
    · simpa only [List.cons_append, present] using ih
    · simp only [List.cons_append, present, ih]

theorem listed_map {α β : Type} (item : String) (content : β → Content) (change : α → β)
    (items : List α) :
    listed item content (items.map change) = listed item (fun first => content (change first)) items := by
  cases items with
  | nil => rfl
  | cons first items => simp only [List.map_cons, listed, List.map_map, Function.comp_def]

theorem present_names_sublist (slots : Slots) :
    ((present slots).map Prod.fst).Sublist (slots.map Prod.fst) := by
  induction slots with
  | nil => exact .slnil
  | cons slot slots ih =>
    obtain ⟨name, _ | content⟩ := slot
    · exact ih.cons name
    · exact ih.cons_cons name

theorem name_mem_of_present {slots : Slots} {member : String × Content}
    (there : member ∈ present slots) : member.1 ∈ slots.map Prod.fst :=
  (present_names_sublist slots).mem (List.mem_map_of_mem there)

theorem present_names_nodup {slots : Slots} (distinct : (slots.map Prod.fst).Nodup) :
    ((present slots).map Prod.fst).Nodup :=
  (present_names_sublist slots).nodup distinct

theorem present_injective {first second : Slots} (names : first.map Prod.fst = second.map Prod.fst)
    (distinct : (first.map Prod.fst).Nodup) (same : present first = present second) :
    first = second := by
  induction first generalizing second with
  | nil =>
    cases second with
    | nil => rfl
    | cons => simp at names
  | cons slot slots ih =>
    cases second with
    | nil => simp at names
    | cons other others =>
      obtain ⟨name, content⟩ := slot
      obtain ⟨name', content'⟩ := other
      simp only [List.map_cons, List.cons.injEq] at names
      obtain ⟨rfl, names⟩ := names
      rw [List.map_cons, List.nodup_cons] at distinct
      have absent : ∀ member ∈ present slots, member.1 ≠ name := by
        intro member there equal
        exact distinct.1 (equal ▸ name_mem_of_present there)
      have absent' : ∀ member ∈ present others, member.1 ≠ name := by
        intro member there equal
        rw [names] at distinct
        exact distinct.1 (equal ▸ name_mem_of_present there)
      cases content with
      | none =>
        cases content' with
        | none => rw [ih names distinct.2 same]
        | some content' =>
          simp only [present] at same
          exact absurd rfl (absent (name, content') (same ▸ List.mem_cons_self))
      | some content =>
        cases content' with
        | none =>
          simp only [present] at same
          exact absurd rfl (absent' (name, content) (same ▸ List.mem_cons_self))
        | some content' =>
          simp only [present, List.cons.injEq, Prod.mk.injEq, true_and] at same
          rw [same.1, ih names distinct.2 same.2]

theorem jsonMembers_eq_map (members : List (String × Content)) :
    jsonMembers members = members.map fun member => (member.1, member.2.json) := by
  induction members with
  | nil => rfl
  | cons member members ih => simp only [jsonMembers, List.map_cons, ih]

theorem jsonItems_eq_map (items : List Content) : jsonItems items = items.map json := by
  induction items with
  | nil => rfl
  | cons item items ih => simp only [jsonItems, List.map_cons, ih]

theorem jsonMembers_names (members : List (String × Content)) :
    (jsonMembers members).map Prod.fst = members.map Prod.fst := by
  simp only [jsonMembers_eq_map, List.map_map, Function.comp_def]

theorem jsonMembers_append (first second : List (String × Content)) :
    jsonMembers (first ++ second) = jsonMembers first ++ jsonMembers second := by
  simp only [jsonMembers_eq_map, List.map_append]

theorem memberEvents_append (first second : List (String × Content)) :
    memberEvents (first ++ second) = memberEvents first ++ memberEvents second := by
  induction first with
  | nil => rfl
  | cons member members ih => simp only [List.cons_append, memberEvents, ih, List.append_assoc]

def word {α : Type} [Vocabulary α] (value : α) : Content := .text (Vocabulary.name value)

def ofServiceApi (api : ServiceApi) : Content :=
  .record
    [("className", .text api.className),
     ("groupId", .text api.groupId),
     ("artifactId", .text api.artifactId),
     ("version", .text api.version)]

def ofAllowableValue (value : AllowableValue) : Content :=
  .record
    [("displayName", .text value.displayName),
     ("value", .text value.value),
     ("description", .ofOption value.description)]

def ofResources (resources : ResourceCardinality × List ResourceType) : Content :=
  .record
    [("cardinality", word resources.1),
     ("resourceTypes", .list "resourceType" (resources.2.map word))]

def ofDynamicProperty (property : DynamicProperty) : Content :=
  .record
    [("name", .text property.name),
     ("value", .text property.value),
     ("description", .text property.description),
     ("expressionLanguageScope", word property.expressionLanguageScope)]

def ofRelationship (relationship : Relationship) : Content :=
  .record
    [("name", .text relationship.name),
     ("description", .text relationship.description),
     ("autoTerminated", .flag relationship.autoTerminated)]

def ofDynamicRelationship (relationship : DynamicRelationship) : Content :=
  .record
    [("name", .text relationship.name),
     ("description", .text relationship.description)]

def ofAttribute (descriptor : AttributeDescriptor) : Content :=
  .record
    [("name", .text descriptor.name),
     ("description", .text descriptor.description)]

def ofDefaultSettings (settings : DefaultSettings) : Content :=
  .record
    [("yieldDuration", .text settings.yieldDuration),
     ("penaltyDuration", .text settings.penaltyDuration),
     ("bulletinLevel", word settings.bulletinLevel)]

def ofStateful (stateful : Stateful) : Content :=
  .record
    [("description", .text stateful.description),
     ("scopes", .list "scope" (stateful.scopes.map word))]

def ofRestriction (restriction : Restriction) : Content :=
  .record
    [("requiredPermission",
       .ofOption (restriction.requiredPermission.map RequiredPermission.wording)),
     ("explanation", .text restriction.explanation)]

def ofResourceUse (use : SystemResource × String) : Content :=
  .record
    [("resource", word use.1),
     ("description", .text use.2)]

def ofUseCase (useCase : UseCase) : Content :=
  .record
    [("description", .text useCase.description),
     ("notes", .text useCase.notes),
     ("keywords", .texts "keyword" useCase.keywords),
     ("inputRequirement", word useCase.inputRequirement),
     ("configuration", .text useCase.configuration)]

def ofProcessorConfiguration (step : String × String) : Content :=
  .record
    [("processorClassName", .text step.1),
     ("configuration", .text step.2)]

def ofDefaultSchedule (schedule : DefaultSchedule) : Content :=
  .record
    [("strategy", word schedule.strategy),
     ("period", .text schedule.period),
     ("concurrentTasks", .count schedule.concurrentTasks.toNat)]

end Content

namespace PropertyDependency

open Content

def slots (dependency : PropertyDependency) : Slots :=
  [("propertyName", some (.text dependency.propertyName)),
   ("propertyDisplayName", some (.text dependency.propertyDisplayName)),
   ("dependentValues", dependency.dependentValues.map (.texts "dependentValue"))]

def content (dependency : PropertyDependency) : Content := .record (present dependency.slots)

end PropertyDependency

namespace PropertyView

open Content

def slots (property : PropertyView) : Slots :=
  [("name", some (.text property.name)),
   ("displayName", some (.text property.displayName)),
   ("description", some (.ofOption property.description)),
   ("defaultValue", property.defaultValue.map .text),
   ("controllerServiceDefinition", property.service.map ofServiceApi),
   ("allowableValues", listed "allowableValue" ofAllowableValue property.allowableValues),
   ("required", some (.flag property.required)),
   ("sensitive", some (.flag property.sensitive)),
   ("expressionLanguageSupported", some (.flag property.expressionLanguageSupported)),
   ("expressionLanguageScope", property.expressionLanguageScope.map word),
   ("dynamicallyModifiesClasspath", some (.flag property.dynamicallyModifiesClasspath)),
   ("dynamic", some (.flag property.dynamic)),
   ("resourceDefinition", property.resources.map ofResources),
   ("dependencies", listed "dependency" PropertyDependency.content property.dependencies)]

def content (property : PropertyView) : Content := .record (present property.slots)

end PropertyView

def DeprecationView.content (deprecation : DeprecationView) : Content :=
  .record
    [("reason", .text deprecation.reason),
     ("alternatives", .texts "alternative" deprecation.alternatives)]

def RestrictedView.slots (restricted : RestrictedView) : Slots :=
  [("generalRestrictionExplanation", restricted.explanation.map .text),
   ("restrictions",
     some (.list "restriction" (restricted.restrictions.map Content.ofRestriction)))]

def RestrictedView.content (restricted : RestrictedView) : Content :=
  .record (Content.present restricted.slots)

def MultiProcessorUseCaseView.content (useCase : MultiProcessorUseCaseView) : Content :=
  .record
    [("description", .text useCase.description),
     ("notes", .text useCase.notes),
     ("keywords", .texts "keyword" useCase.keywords),
     ("processorConfigurations",
       .list "processorConfiguration" (useCase.steps.map Content.ofProcessorConfiguration))]

namespace View

open Content

/-- What only processors show. The places stay empty for the other kinds. -/
def processorSlots (processor : Option ProcessorMetadata) : Slots :=
  [("relationships", processor.bind fun metadata =>
     listed "relationship" ofRelationship metadata.relationships.toList),
   ("dynamicRelationship", processor.bind fun metadata =>
     metadata.dynamicRelationship.map ofDynamicRelationship),
   ("readsAttributes", processor.bind fun metadata =>
     listed "readsAttribute" ofAttribute metadata.readsAttributes),
   ("writesAttributes", processor.bind fun metadata =>
     listed "writesAttribute" ofAttribute metadata.writesAttributes),
   ("triggerSerially", processor.bind fun metadata => held metadata.triggerSerially),
   ("triggerWhenEmpty", processor.bind fun metadata => held metadata.triggerWhenEmpty),
   ("triggerWhenAnyDestinationAvailable", processor.bind fun metadata =>
     held metadata.triggerWhenAnyDestinationAvailable),
   ("supportsBatching", processor.bind fun metadata => held metadata.supportsBatching),
   ("primaryNodeOnly", processor.bind fun metadata => held metadata.primaryNodeOnly),
   ("sideEffectFree", processor.bind fun metadata => held metadata.sideEffectFree),
   ("defaultSettings", processor.bind fun metadata =>
     metadata.defaultSettings.map ofDefaultSettings)]

/-- Every place of a document, in canonical order. -/
def slots (view : View) : Slots :=
  [("name", some (.text view.className)),
   ("type", some (word view.category)),
   ("deprecationNotice", view.deprecation.map DeprecationView.content),
   ("description", view.description.map .text),
   ("tags", some (.texts "tag" view.tags)),
   ("properties", listed "property" PropertyView.content view.properties),
   ("dynamicProperties", listed "dynamicProperty" ofDynamicProperty view.dynamicProperties),
   ("supportsSensitiveDynamicProperties", held view.supportsSensitiveDynamicProperties)] ++
  processorSlots view.processor ++
  [("stateful", view.stateful.map ofStateful),
   ("restricted", view.restricted.map RestrictedView.content),
   ("inputRequirement", view.inputRequirement.map word),
   ("systemResourceConsiderations", listed "systemResourceConsideration" ofResourceUse
     view.resourceUses),
   ("useCases", listed "useCase" ofUseCase view.useCases),
   ("multiProcessorUseCases", listed "multiProcessorUseCase"
     MultiProcessorUseCaseView.content view.multiProcessorUseCases),
   ("seeAlso", listed "see" .text view.seeAlso),
   ("defaultSchedule", view.defaultSchedule.map ofDefaultSchedule)] ++
  [("providedServiceAPIs", listed "providedServiceAPI" ofServiceApi view.providedApis)]

/-- Everything that a document shows. -/
def content (view : View) : Content := .record (present view.slots)

theorem slots_names_nodup (view : View) : (view.slots.map Prod.fst).Nodup := by
  simp only [slots, processorSlots, List.map_append, List.map_cons, List.map_nil]
  decide

end View

namespace Section

open Content

/-- The place of a section in the content of a document, with what stands there. Header and
footer have none. -/
def slots : Section → Slots
  | .header _ | .footer _ => []
  | .name className => [("name", some (.text className))]
  | .category value => [("type", some (word value))]
  | .deprecationNotice notice =>
    [("deprecationNotice", notice.map fun notice => notice.view.content)]
  | .description value => [("description", value.map .text)]
  | .tags values => [("tags", some (.texts "tag" values))]
  | .properties declared services =>
    [("properties", listed "property" (fun property => (property.view services).content) declared)]
  | .dynamicProperties declared =>
    [("dynamicProperties", listed "dynamicProperty" ofDynamicProperty declared)]
  | .supportsSensitiveDynamicProperties supported =>
    [("supportsSensitiveDynamicProperties", held supported)]
  | .relationships set => [("relationships", listed "relationship" ofRelationship set.toList)]
  | .dynamicRelationship relationship =>
    [("dynamicRelationship", relationship.map ofDynamicRelationship)]
  | .readsAttributes attributes =>
    [("readsAttributes", listed "readsAttribute" ofAttribute attributes)]
  | .writesAttributes attributes =>
    [("writesAttributes", listed "writesAttribute" ofAttribute attributes)]
  | .triggerSerially present => [("triggerSerially", held present)]
  | .triggerWhenEmpty present => [("triggerWhenEmpty", held present)]
  | .triggerWhenAnyDestinationAvailable present =>
    [("triggerWhenAnyDestinationAvailable", held present)]
  | .supportsBatching present => [("supportsBatching", held present)]
  | .primaryNodeOnly present => [("primaryNodeOnly", held present)]
  | .sideEffectFree present => [("sideEffectFree", held present)]
  | .defaultSettings settings => [("defaultSettings", settings.map ofDefaultSettings)]
  | .stateful state => [("stateful", state.map ofStateful)]
  | .restricted limits => [("restricted", limits.map fun limits => limits.view.content)]
  | .inputRequirement requirement => [("inputRequirement", requirement.map word)]
  | .systemResourceConsiderations considerations =>
    [("systemResourceConsiderations", listed "systemResourceConsideration" ofResourceUse
      (SystemResourceConsideration.uses considerations))]
  | .useCases cases => [("useCases", listed "useCase" ofUseCase cases)]
  | .multiProcessorUseCases cases =>
    [("multiProcessorUseCases",
      listed "multiProcessorUseCase" (fun useCase => useCase.view.content) cases)]
  | .seeAlso none => [("seeAlso", none)]
  | .seeAlso (some related) =>
    [("seeAlso", listed "see" .text (firstOccurrences (related.classes ++ related.classNames)))]
  | .defaultSchedule schedule => [("defaultSchedule", schedule.map ofDefaultSchedule)]
  | .providedServiceApis apis =>
    [("providedServiceAPIs", listed "providedServiceAPI" ofServiceApi apis)]

/-- What a section shows and under which name: one member, or none where it has nothing to show. -/
def entries (part : Section) : List (String × Content) := present part.slots

end Section

namespace Request

open Content

theorem view_category (request : Request) : request.view.category = request.component.category := by
  simp only [view, Component.category]
  cases request.component.kind <;> rfl

theorem view_processor (request : Request) :
    request.view.processor = request.component.kind.processor? := by
  simp only [view]
  cases request.component.kind <;> rfl

theorem view_providedApis (request : Request) :
    request.view.providedApis = request.providedApis.getD [] := by
  simp only [view, providedApis]
  cases request.component.kind with
  | controllerService declared =>
    simp only [Kind.controllerService?, Option.map_some, List.isEmpty_iff, Option.getD_some]
  | _ => rfl

private theorem processor_entries (processor : Option ProcessorMetadata) :
    (match processor with
      | some metadata => metadata.sections
      | none => []).flatMap Section.entries = present (View.processorSlots processor) := by
  cases processor with
  | none => rfl
  | some metadata =>
    simp only [ProcessorMetadata.sections, View.processorSlots, Option.bind_some, List.flatMap_cons,
      List.flatMap_nil, Section.entries, Section.slots, ← present_append, List.append_nil,
      List.cons_append, List.nil_append]

private theorem apis_entries (apis : Option (List ServiceApi)) :
    (match apis with
      | some apis => [Section.providedServiceApis apis]
      | none => []).flatMap Section.entries =
      present [("providedServiceAPIs", listed "providedServiceAPI" ofServiceApi (apis.getD []))] := by
  cases apis with
  | none => rfl
  | some apis => exact List.append_nil _

private theorem seeAlso_entries (request : Request) :
    (Section.seeAlso request.component.seeAlso).entries =
      present [("seeAlso", listed "see" .text request.view.seeAlso)] := by
  simp only [view]
  cases request.component.seeAlso <;> rfl

/-- The members of a document, as its sections show them, are those of its places. -/
theorem flatMap_entries (request : Request) :
    request.sections.flatMap Section.entries = present request.view.slots := by
  have footer : [Section.footer request.component].flatMap Section.entries = [] := rfl
  simp only [sections, View.slots, List.flatMap_append, present_append, view_processor,
    view_providedApis]
  rw [footer, List.append_nil]
  refine congr (congrArg _ (congr (congrArg _ (congr (congrArg _ ?_) (processor_entries _))) ?_))
    (apis_entries _)
  · simp only [List.flatMap_cons, List.flatMap_nil, Section.entries, Section.slots, view_category,
      ← present_append, List.append_nil, List.nil_append, List.cons_append]
    simp only [view, listed_map, Option.map_map, Function.comp_def]
  · simp only [List.flatMap_cons, List.flatMap_nil, seeAlso_entries]
    simp only [Section.entries, Section.slots, ← present_append, List.append_nil, List.cons_append,
      List.nil_append, view, listed_map, Option.map_map, Function.comp_def]

end Request

end ComponentDocs
