import ComponentDocs.Component.Vocabulary

/-! What a component tells its users beside its properties: deprecation, related
components, state, restrictions, resource use, use cases and defaults. -/
namespace ComponentDocs

/-- Replacements are named by class reference or by class name. -/
structure DeprecationNotice where
  reason : String := ""
  alternatives : List String := []
  classNames : List String := []
deriving DecidableEq

/-- Class references before names, each text once, where it occurs first. -/
def DeprecationNotice.merged (notice : DeprecationNotice) : List String :=
  (notice.alternatives ++ notice.classNames).eraseDups

structure SeeAlso where
  classes : List String := []
  classNames : List String := []
deriving DecidableEq

/-- Class references before names, each text once, where it occurs first. -/
def SeeAlso.merged (related : SeeAlso) : List String :=
  (related.classes ++ related.classNames).eraseDups

structure Stateful where
  description : String := ""
  scopes : List Scope := []
deriving DecidableEq

structure Restriction where
  requiredPermission : Option RequiredPermission := none
  explanation : String := ""
deriving DecidableEq

structure Restricted where
  generalRestrictionExplanation : Option String := none
  restrictions : List Restriction := []
deriving DecidableEq

/-- An entry that names no resource is not shown. -/
structure SystemResourceConsideration where
  resource : Option SystemResource := none
  description : String := ""
deriving DecidableEq

structure UseCase where
  description : String := ""
  notes : String := ""
  keywords : List String := []
  inputRequirement : InputRequirement := .allowed
  configuration : String := ""
deriving DecidableEq

/-- One step of a use case that needs several components. -/
structure ProcessorConfiguration where
  processorClassName : String := ""
  processorClass : Option String := none
  configuration : String := ""
deriving DecidableEq

/-- The class name, or the class reference when the name is empty. -/
def ProcessorConfiguration.shownClassName (step : ProcessorConfiguration) : String :=
  if step.processorClassName.isEmpty then step.processorClass.getD "" else step.processorClassName

structure MultiProcessorUseCase where
  description : String := ""
  notes : String := ""
  keywords : List String := []
  configurations : List ProcessorConfiguration := []
deriving DecidableEq

structure DefaultSchedule where
  strategy : SchedulingStrategy := .timerDriven
  period : String := "0 sec"
  concurrentTasks : UInt32 := 1
deriving DecidableEq

structure DefaultSettings where
  yieldDuration : String := "1 sec"
  penaltyDuration : String := "30 sec"
  bulletinLevel : BulletinLevel := .warn
deriving DecidableEq

end ComponentDocs
