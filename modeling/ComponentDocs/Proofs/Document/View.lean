import ComponentDocs.Document.Renderer

/-! What a document displays of a request, told from the fields of the snapshot alone. A view
keeps what some document tells apart and nothing else: service references are resolved, texts
that stand in for others are chosen, repeated names are merged, and what belongs to another kind
of component is gone. -/
namespace ComponentDocs

/-- Every text of a list once, where it comes first. -/
def firstOccurrences : List String → List String
  | [] => []
  | text :: others => text :: (firstOccurrences others).filter (· ≠ text)

/-- A permission as people read it: its identifier with blanks for hyphens. -/
def RequiredPermission.wording (permission : RequiredPermission) : String :=
  .ofList <| (Vocabulary.name permission).toList.map fun c => if c = '-' then ' ' else c

/-- A property as it is displayed. -/
structure PropertyView where
  name : String
  displayName : String
  description : Option String
  defaultValue : Option String
  service : Option ServiceApi
  allowableValues : List AllowableValue
  required : Bool
  sensitive : Bool
  expressionLanguageSupported : Bool
  expressionLanguageScope : Option ExpressionLanguageScope
  dynamicallyModifiesClasspath : Bool
  dynamic : Bool
  resources : Option (ResourceCardinality × List ResourceType)
  dependencies : List PropertyDependency

/-- The reason of a deprecation, and its replacements each once. -/
structure DeprecationView where
  reason : String
  alternatives : List String

structure RestrictedView where
  explanation : Option String
  restrictions : List Restriction

/-- Each step of the use case by the class name that is shown for it and its configuration. -/
structure MultiProcessorUseCaseView where
  description : String
  notes : String
  keywords : List String
  steps : List (String × String)

/-- Everything that the document of a request displays. -/
structure View where
  className : String
  category : Category
  deprecation : Option DeprecationView
  description : Option String
  tags : List String
  properties : List PropertyView
  dynamicProperties : List DynamicProperty
  supportsSensitiveDynamicProperties : Bool
  processor : Option ProcessorMetadata
  stateful : Option Stateful
  restricted : Option RestrictedView
  inputRequirement : Option InputRequirement
  resourceUses : List (SystemResource × String)
  useCases : List UseCase
  multiProcessorUseCases : List MultiProcessorUseCaseView
  seeAlso : List String
  defaultSchedule : Option DefaultSchedule
  providedApis : List ServiceApi

def PropertyDescriptor.view (property : PropertyDescriptor) (services : PropertyServices) :
    PropertyView where
  name := property.name
  displayName :=
    match property.displayName with
    | some text => text
    | none => property.name
  description := property.description
  defaultValue := property.defaultValue
  service :=
    match property.controllerServiceDefinition, services.find? property.name with
    | none, _ => none
    | some _, some api => some api
    | some className, none => some ⟨className, "unknown", "unknown", "unknown"⟩
  allowableValues := property.allowableValues
  required := property.required
  sensitive := property.sensitive
  expressionLanguageSupported := property.expressionLanguageSupported
  expressionLanguageScope := property.expressionLanguageScope
  dynamicallyModifiesClasspath := property.dynamicallyModifiesClasspath
  dynamic := property.dynamic
  resources :=
    match property.resourceDefinition with
    | some ⟨some cardinality, types⟩ => some (cardinality, types)
    | _ => none
  dependencies := property.dependencies

def DeprecationNotice.view (notice : DeprecationNotice) : DeprecationView :=
  ⟨notice.reason, firstOccurrences (notice.alternatives ++ notice.classNames)⟩

/-- An empty explanation is displayed as little as an absent one. -/
def Restricted.view (restricted : Restricted) : RestrictedView where
  explanation :=
    match restricted.generalRestrictionExplanation with
    | some text => if text = "" then none else some text
    | none => none
  restrictions := restricted.restrictions

/-- A step without a class name is displayed by its class reference, if it has one. -/
def ProcessorConfiguration.view (step : ProcessorConfiguration) : String × String :=
  let className :=
    if step.processorClassName = "" then
      match step.processorClass with
      | some reference => reference
      | none => ""
    else step.processorClassName
  (className, step.configuration)

def MultiProcessorUseCase.view (useCase : MultiProcessorUseCase) : MultiProcessorUseCaseView :=
  ⟨useCase.description, useCase.notes, useCase.keywords,
    useCase.configurations.map ProcessorConfiguration.view⟩

/-- A consideration that names no resource is not displayed. -/
def SystemResourceConsideration.uses :
    List SystemResourceConsideration → List (SystemResource × String)
  | [] => []
  | ⟨some resource, description⟩ :: others => (resource, description) :: uses others
  | ⟨none, _⟩ :: others => uses others

def Request.view (request : Request) : View where
  className := request.component.className
  category :=
    match request.component.kind with
    | .processor _ => .processor
    | .controllerService _ => .controllerService
    | .reportingTask => .reportingTask
    | .flowAnalysisRule => .flowAnalysisRule
    | .parameterProvider => .parameterProvider
  deprecation := request.component.deprecationNotice.map DeprecationNotice.view
  description := request.component.description
  tags := request.component.tags
  properties := request.component.properties.map fun property =>
    property.view request.propertyServices
  dynamicProperties := request.component.dynamicProperties
  supportsSensitiveDynamicProperties := request.component.supportsSensitiveDynamicProperties
  processor :=
    match request.component.kind with
    | .processor metadata => some metadata
    | _ => none
  stateful := request.component.stateful
  restricted := request.component.restricted.map Restricted.view
  inputRequirement := request.component.inputRequirement
  resourceUses := SystemResourceConsideration.uses request.component.systemResourceConsiderations
  useCases := request.component.useCases
  multiProcessorUseCases := request.component.multiProcessorUseCases.map MultiProcessorUseCase.view
  seeAlso :=
    match request.component.seeAlso with
    | some related => firstOccurrences (related.classes ++ related.classNames)
    | none => []
  defaultSchedule := request.component.defaultSchedule
  providedApis :=
    match request.component.kind with
    | .controllerService declared =>
      if request.providedServiceApis = [] then declared.providedServiceApis
      else request.providedServiceApis
    | _ => []

/-- A description inside a record, as far as a format displays it. XML has an empty element
for an absent one, where JSON has a null. -/
def Format.shownNote : Format → Option String → Option String
  | .xml, note => some (note.getD "")
  | .json, note => note

def AllowableValue.shownIn (format : Format) (value : AllowableValue) : AllowableValue :=
  { value with description := format.shownNote value.description }

def PropertyView.shownIn (format : Format) (property : PropertyView) : PropertyView :=
  { property with
    description := format.shownNote property.description
    allowableValues := property.allowableValues.map (AllowableValue.shownIn format) }

/-- The view as far as a format displays it. -/
def View.shownIn (format : Format) (view : View) : View :=
  { view with properties := view.properties.map (PropertyView.shownIn format) }

end ComponentDocs
