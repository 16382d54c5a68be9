import ComponentDocs.Component.Vocabulary

/-! Shapes: what JSON a snapshot's parts are read from, as data. A shape is indexed by
the type of what it reads, so the readers that interpret it need no casts. -/
namespace ComponentDocs.Snapshot

mutual

/-- The shape of JSON values that stand for values of a type.

* `choice`: one of the spelled words.
* `optional`: `null`, or the inner shape.
* `table`: an object with arbitrary keys; entries keep the order of the text.
* `record`: an object with known fields, or a list of their values in order. Unknown
  fields are passed over.
* `kinds`: an object that names one of several cases under `tag`; its other members
  are read as that case.
* `extended`: an object with the fields of a record and those of one of several cases.
* `convert`: another shape, followed by a total function. -/
inductive Shape : Type → Type 1
  | text : Shape String
  | flag : Shape Bool
  | count : Shape UInt32
  | choice {α : Type} (options : List (String × α)) : Shape α
  | optional {α : Type} (shape : Shape α) : Shape (Option α)
  | list {α : Type} (shape : Shape α) : Shape (List α)
  | table {α : Type} (shape : Shape α) : Shape (List (String × α))
  | record {σ α : Type} (name : String) (fields : Fields σ α) : Shape α
  | kinds {α : Type} (name tag : String) (cases : Cases α) : Shape α
  | extended {σ α β : Type} (name : String) (fields : Fields σ α) (tag : String)
      (cases : Cases β) : Shape (α × β)
  | convert {α β : Type} (build : α → β) (shape : Shape α) : Shape β

/-- Fields of a record, in order. Reading fills one slot per field; a slot that stays
empty takes the field's default, and without one the field is required. -/
inductive Fields : Type → Type → Type 1
  | nil : Fields Unit Unit
  | cons {σ α β : Type} (name : String) (shape : Shape α) (default : Option α)
      (more : Fields σ β) : Fields (Option α × σ) (α × β)

/-- Cases of a tagged object. A case of its own shape reads the members beside the
tag; a plain case ignores them. -/
inductive Cases : Type → Type 1
  | nil {α : Type} : Cases α
  | plain {α : Type} (name : String) (value : α) (more : Cases α) : Cases α
  | shaped {α β : Type} (name : String) (shape : Shape β) (build : β → α) (more : Cases α) :
      Cases α

end

def Shape.word (α : Type) [Vocabulary α] : Shape α := .choice (Vocabulary.spelled α)

namespace Fields

variable {σ α β : Type}

/-- A field without default. -/
def need (name : String) (shape : Shape α) (more : Fields σ β) : Fields (Option α × σ) (α × β) :=
  .cons name shape none more

/-- A field with a default. -/
def or (name : String) (shape : Shape α) (default : α) (more : Fields σ β) :
    Fields (Option α × σ) (α × β) :=
  .cons name shape (some default) more

/-- No slot is filled. -/
def blank : {σ β : Type} → Fields σ β → σ
  | _, _, .nil => ()
  | _, _, .cons _ _ _ more => (none, more.blank)

def size : {σ β : Type} → Fields σ β → Nat
  | _, _, .nil => 0
  | _, _, .cons _ _ _ more => more.size + 1

/-- The values of all fields, with defaults for empty slots; or the first field that
has neither. -/
def finish : {σ β : Type} → Fields σ β → σ → Except String β
  | _, _, .nil, () => .ok ()
  | _, _, .cons name _ default more, (slot, slots) =>
    match slot <|> default with
    | none => .error name
    | some value =>
      match more.finish slots with
      | .ok values => .ok (value, values)
      | .error missing => .error missing

end Fields

def Cases.names : {α : Type} → Cases α → List String
  | _, .nil => []
  | _, .plain name _ more => name :: more.names
  | _, .shaped name _ _ more => name :: more.names

end ComponentDocs.Snapshot
