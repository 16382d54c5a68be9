import ComponentDocs.Component.Guidance
import ComponentDocs.Component.Property
import ComponentDocs.Component.Relationship

/-! The snapshot of one extension component, and the request to document it. -/
namespace ComponentDocs

/-- What only processors declare. -/
structure ProcessorMetadata where
  relationships : RelationshipSet := .empty
  dynamicRelationship : Option DynamicRelationship := none
  readsAttributes : List AttributeDescriptor := []
  writesAttributes : List AttributeDescriptor := []
  triggerSerially : Bool := false
  triggerWhenEmpty : Bool := false
  triggerWhenAnyDestinationAvailable : Bool := false
  supportsBatching : Bool := false
  primaryNodeOnly : Bool := false
  sideEffectFree : Bool := false
  defaultSettings : Option DefaultSettings := none
deriving DecidableEq

/-- What only controller services declare. -/
structure ControllerServiceMetadata where
  providedServiceApis : List ServiceApi := []
deriving DecidableEq

/-- The five kinds of component, each with what only that kind declares. -/
inductive Kind
  | processor (metadata : ProcessorMetadata)
  | controllerService (metadata : ControllerServiceMetadata)
  | reportingTask
  | flowAnalysisRule
  | parameterProvider
deriving DecidableEq

namespace Kind

def category : Kind → Category
  | .processor _ => .processor
  | .controllerService _ => .controllerService
  | .reportingTask => .reportingTask
  | .flowAnalysisRule => .flowAnalysisRule
  | .parameterProvider => .parameterProvider

/-- The kind of a category that declares nothing of its own. -/
def ofCategory : Category → Kind
  | .processor => .processor {}
  | .controllerService => .controllerService {}
  | .reportingTask => .reportingTask
  | .flowAnalysisRule => .flowAnalysisRule
  | .parameterProvider => .parameterProvider

def processor? : Kind → Option ProcessorMetadata
  | .processor metadata => some metadata
  | _ => none

def controllerService? : Kind → Option ControllerServiceMetadata
  | .controllerService metadata => some metadata
  | _ => none

end Kind

/-- Everything one component declares about itself. -/
structure Component where
  className : String
  kind : Kind
  description : Option String := none
  tags : List String := []
  properties : List PropertyDescriptor := []
  dynamicProperties : List DynamicProperty := []
  supportsSensitiveDynamicProperties : Bool := false
  deprecationNotice : Option DeprecationNotice := none
  stateful : Option Stateful := none
  restricted : Option Restricted := none
  inputRequirement : Option InputRequirement := none
  systemResourceConsiderations : List SystemResourceConsideration := []
  useCases : List UseCase := []
  multiProcessorUseCases : List MultiProcessorUseCase := []
  seeAlso : Option SeeAlso := none
  defaultSchedule : Option DefaultSchedule := none
deriving DecidableEq

def Component.category (component : Component) : Category := component.kind.category

/-- Everything needed to document one component. -/
structure Request where
  component : Component
  providedServiceApis : List ServiceApi := []
  propertyServices : PropertyServices := .empty

/-- The request that resolves no service and passes no interfaces. -/
def Request.ofComponent (component : Component) : Request := { component }

/-- The interfaces that a component is documented to provide: those passed with the
request, or those it declares when none are passed. Only a controller service
provides any. -/
def Request.providedApis (request : Request) : Option (List ServiceApi) :=
  request.component.kind.controllerService?.map fun declared =>
    if request.providedServiceApis.isEmpty then declared.providedServiceApis
    else request.providedServiceApis

end ComponentDocs
