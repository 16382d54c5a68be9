import ComponentDocs.Component.Vocabulary

/-! Log events and the lines that show them. -/
namespace ComponentDocs.Log

/-- How serious an event is, the most serious level first. -/
inductive Level
  | error
  | warn
  | info
  | debug
  | trace
deriving DecidableEq

instance : Vocabulary Level where
  words := [.error, .warn, .info, .debug, .trace]
  name
    | .error => "ERROR"
    | .warn => "WARN"
    | .info => "INFO"
    | .debug => "DEBUG"
    | .trace => "TRACE"

/-- Levels in the order in which a log lets in more of them. -/
def Level.verbosity : Level → Nat
  | .error => 1
  | .warn => 2
  | .info => 3
  | .debug => 4
  | .trace => 5

/-- Something worth knowing: what it concerns (`target`), a fixed message, and named
values in order. -/
structure Event where
  level : Level
  target : String
  message : String
  fields : List (String × String) := []
deriving DecidableEq

namespace Event

/-- The names under which an event holds text, its message included. -/
def fieldNames (event : Event) : List String := "message" :: event.fields.map Prod.fst

def line (event : Event) : String :=
  Vocabulary.name event.level ++ " " ++ event.target ++ ": " ++ event.message ++
    String.join (event.fields.map fun field => " " ++ field.1 ++ "=" ++ field.2)

end Event

end ComponentDocs.Log
