import ComponentDocs.Component.Vocabulary

/-! Configurable properties of a component, and the service interfaces that a
property may refer to. The default of each field is its value in a snapshot
that does not mention it. -/
namespace ComponentDocs

/-- Coordinates of a published controller service interface. No field has a default. -/
structure ServiceApi where
  className : String
  groupId : String
  artifactId : String
  version : String
deriving DecidableEq

/-- What each property's service reference resolves to, looked up by the property's
name. Two tables are equal when every look-up agrees; the order in which entries
came is not kept. -/
structure PropertyServices where
  find? : String → Option ServiceApi

namespace PropertyServices

def empty : PropertyServices := ⟨fun _ => none⟩

/-- Resolves `name` to `api`, whatever it resolved to before. -/
def insert (services : PropertyServices) (name : String) (api : ServiceApi) : PropertyServices :=
  ⟨fun other => if other = name then some api else services.find? other⟩

/-- Entries read from left to right: the last one under a name stays. -/
def ofList (entries : List (String × ServiceApi)) : PropertyServices :=
  entries.foldl (fun services entry => services.insert entry.1 entry.2) empty

end PropertyServices

structure AllowableValue where
  displayName : String := ""
  value : String := ""
  description : Option String := none
deriving DecidableEq

/-- Files, directories or addresses a property may reference. Documents show it
only while `cardinality` is known. -/
structure ResourceDefinition where
  cardinality : Option ResourceCardinality := none
  resourceTypes : List ResourceType := []
deriving DecidableEq

/-- A property matters only when another one is set, to any value or to one of
`dependentValues`. The empty list is an explicitly empty set of values. -/
structure PropertyDependency where
  propertyName : String := ""
  propertyDisplayName : String := ""
  dependentValues : Option (List String) := none
deriving DecidableEq

/-- One configurable field of a component. `controllerServiceDefinition` is the
class of the service interface that the property references. -/
structure PropertyDescriptor where
  name : String := ""
  displayName : Option String := none
  description : Option String := none
  defaultValue : Option String := none
  allowableValues : List AllowableValue := []
  required : Bool := false
  sensitive : Bool := false
  dynamic : Bool := false
  expressionLanguageSupported : Bool := false
  expressionLanguageScope : Option ExpressionLanguageScope := none
  dynamicallyModifiesClasspath : Bool := false
  controllerServiceDefinition : Option String := none
  resourceDefinition : Option ResourceDefinition := none
  dependencies : List PropertyDependency := []
deriving DecidableEq

namespace PropertyDescriptor

/-- The display name, or the property's name when none is declared. -/
def shownName (property : PropertyDescriptor) : String :=
  property.displayName.getD property.name

end PropertyDescriptor

/-- Template for the properties that users may add to a component. -/
structure DynamicProperty where
  name : String := ""
  value : String := ""
  description : String := ""
  expressionLanguageScope : ExpressionLanguageScope := .none
deriving DecidableEq

end ComponentDocs
