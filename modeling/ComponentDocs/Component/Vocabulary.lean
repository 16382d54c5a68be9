/-! Closed vocabularies: the words a snapshot and a document may use where free
text is not allowed. Each word has one spelling, and no two words of a
vocabulary share one. -/
namespace ComponentDocs

/-- A type with finitely many words, listed in order, each with its spelling. -/
class Vocabulary (α : Type) where
  words : List α
  name : α → String

namespace Vocabulary

variable {α : Type} [Vocabulary α]

def parse? (text : String) : Option α :=
  words.find? fun word => name word == text

def spelled (α : Type) [Vocabulary α] : List (String × α) :=
  words.map fun word => (name word, word)

end Vocabulary

/-- Where expression language is evaluated for a property value. -/
inductive ExpressionLanguageScope
  | none
  | environment
  | flowFileAttributes
deriving DecidableEq

instance : Vocabulary ExpressionLanguageScope where
  words := [.none, .environment, .flowFileAttributes]
  name
    | .none => "NONE"
    | .environment => "ENVIRONMENT"
    | .flowFileAttributes => "FLOWFILE_ATTRIBUTES"

/-- How many resources a property may reference. -/
inductive ResourceCardinality
  | single
  | multiple
deriving DecidableEq

instance : Vocabulary ResourceCardinality where
  words := [.single, .multiple]
  name
    | .single => "SINGLE"
    | .multiple => "MULTIPLE"

/-- What kind of resource a property may reference. -/
inductive ResourceType
  | file
  | directory
  | text
  | url
deriving DecidableEq

instance : Vocabulary ResourceType where
  words := [.file, .directory, .text, .url]
  name
    | .file => "FILE"
    | .directory => "DIRECTORY"
    | .text => "TEXT"
    | .url => "URL"

/-- How far the state of a stateful component reaches. -/
inductive Scope
  | cluster
  | «local»
deriving DecidableEq

instance : Vocabulary Scope where
  words := [.cluster, .local]
  name
    | .cluster => "CLUSTER"
    | .local => "LOCAL"

/-- Whether a component needs incoming data. -/
inductive InputRequirement
  | required
  | allowed
  | forbidden
deriving DecidableEq

instance : Vocabulary InputRequirement where
  words := [.required, .allowed, .forbidden]
  name
    | .required => "INPUT_REQUIRED"
    | .allowed => "INPUT_ALLOWED"
    | .forbidden => "INPUT_FORBIDDEN"

/-- A resource of the host that a component may use up. -/
inductive SystemResource
  | cpu
  | disk
  | memory
  | network
deriving DecidableEq

instance : Vocabulary SystemResource where
  words := [.cpu, .disk, .memory, .network]
  name
    | .cpu => "CPU"
    | .disk => "DISK"
    | .memory => "MEMORY"
    | .network => "NETWORK"

/-- How a component is scheduled unless configured otherwise. -/
inductive SchedulingStrategy
  | timerDriven
  | cronDriven
deriving DecidableEq

instance : Vocabulary SchedulingStrategy where
  words := [.timerDriven, .cronDriven]
  name
    | .timerDriven => "TIMER_DRIVEN"
    | .cronDriven => "CRON_DRIVEN"

/-- The least severity at which a component posts bulletins. -/
inductive BulletinLevel
  | debug
  | info
  | warn
  | error
  | none
deriving DecidableEq

instance : Vocabulary BulletinLevel where
  words := [.debug, .info, .warn, .error, .none]
  name
    | .debug => "DEBUG"
    | .info => "INFO"
    | .warn => "WARN"
    | .error => "ERROR"
    | .none => "NONE"

/-- A permission that a user must hold before configuring a restricted component. -/
inductive RequiredPermission
  | readFilesystem
  | writeFilesystem
  | readDistributedFilesystem
  | writeDistributedFilesystem
  | executeCode
  | accessKeytab
  | accessTicketCache
  | accessEnvironmentCredentials
  | exportNifiDetails
  | referenceRemoteResources
deriving DecidableEq

/-- A permission's spelling is its identifier; documents show its `label` instead. -/
instance : Vocabulary RequiredPermission where
  words := [.readFilesystem, .writeFilesystem, .readDistributedFilesystem,
    .writeDistributedFilesystem, .executeCode, .accessKeytab, .accessTicketCache,
    .accessEnvironmentCredentials, .exportNifiDetails, .referenceRemoteResources]
  name
    | .readFilesystem => "read-filesystem"
    | .writeFilesystem => "write-filesystem"
    | .readDistributedFilesystem => "read-distributed-filesystem"
    | .writeDistributedFilesystem => "write-distributed-filesystem"
    | .executeCode => "execute-code"
    | .accessKeytab => "access-keytab"
    | .accessTicketCache => "access-ticket-cache"
    | .accessEnvironmentCredentials => "access-environment-credentials"
    | .exportNifiDetails => "export-nifi-details"
    | .referenceRemoteResources => "reference-remote-resources"

/-- The wording of a permission for people. -/
def RequiredPermission.label : RequiredPermission → String
  | .readFilesystem => "read filesystem"
  | .writeFilesystem => "write filesystem"
  | .readDistributedFilesystem => "read distributed filesystem"
  | .writeDistributedFilesystem => "write distributed filesystem"
  | .executeCode => "execute code"
  | .accessKeytab => "access keytab"
  | .accessTicketCache => "access ticket cache"
  | .accessEnvironmentCredentials => "access environment credentials"
  | .exportNifiDetails => "export nifi details"
  | .referenceRemoteResources => "reference remote resources"

/-- The five categories of extension component. -/
inductive Category
  | processor
  | controllerService
  | reportingTask
  | flowAnalysisRule
  | parameterProvider
deriving DecidableEq

instance : Vocabulary Category where
  words := [.processor, .controllerService, .reportingTask, .flowAnalysisRule, .parameterProvider]
  name
    | .processor => "PROCESSOR"
    | .controllerService => "CONTROLLER_SERVICE"
    | .reportingTask => "REPORTING_TASK"
    | .flowAnalysisRule => "FLOW_ANALYSIS_RULE"
    | .parameterProvider => "PARAMETER_PROVIDER"

end ComponentDocs
