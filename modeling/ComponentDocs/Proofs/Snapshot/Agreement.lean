import ComponentDocs.Proofs.Snapshot.Table

/-! The tables of fields and the shapes that snapshots are read under agree, record by record and
field by field. -/
namespace ComponentDocs

open Json (Gap Members)

namespace Snapshot

theorem Shape.toOption_ofJson_record {σ α : Type} (name : String) (fields : Fields σ α) (origin : Origin)
    (members : Members) :
    ((record name fields).ofJson origin (.object members)).toOption = fields.gather origin members := by
  apply Option.ext
  intro values
  rw [toOption_eq_some_iff, ofJson_record_eq_ok_iff]

/-- The shape has a place for `null`. -/
def Shape.takesNull : {α : Type} → Shape α → Bool
  | _, .optional _ => true
  | _, .convert _ shape => shape.takesNull
  | _, _ => false

/-- Records stand in what has the shape. -/
def Shape.holdsRecords : {α : Type} → Shape α → Bool
  | _, .optional shape | _, .list shape | _, .table shape | _, .convert _ shape => shape.holdsRecords
  | _, .record _ _ | _, .kinds _ _ _ | _, .extended _ _ _ _ => true
  | _, _ => false

/-- The field is there or has its default as the table has it. `set` puts a value into the field of
a record that is complete but for it. -/
inductive Presence.Fits {α : Type} : {γ : Type} → Presence α → Shape γ → Option γ → (γ → α) → Prop
  | needed {γ : Type} {shape : Shape γ} {set : γ → α} (refuses : shape.takesNull = false) :
      Fits .needed shape none set
  | defaulted {γ : Type} {reset : α → α} {shape : Shape γ} {set : γ → α} {default : γ}
      (refuses : shape.takesNull = false) (resets : ∀ value, reset (set value) = set default) :
      Fits (.defaulted reset) shape (some default) set
  | optional {γ : Type} {reset : α → α} {shape : Shape γ} {set : Option γ → α}
      (resets : ∀ value, reset (set value) = set none) :
      Fits (.optional reset) (.optional shape) (some none) set

/-- The field is read as what the table has in it, so no record in a snapshot is left out of the
tables. -/
inductive Contents.Fits {α : Type} : {γ : Type} → Contents α → Shape γ → (γ → α) → Prop
  | plain {γ : Type} {shape : Shape γ} {set : γ → α} (bare : shape.holdsRecords = false) : Fits .plain shape set
  | record {inner : Record} {put : inner.Value → α → α} {set : inner.Value → α}
      (puts : ∀ part value, put part (set value) = set part) : Fits (.record inner put) inner.shape set
  | optional {inner : Record} {put : inner.Value → α → α} {set : Option inner.Value → α}
      (puts : ∀ part value, put part (set value) = set (some part)) :
      Fits (.record inner put) (.optional inner.shape) set
  | list {inner : Record} {put : List inner.Value → α → α} {set : List inner.Value → α}
      (puts : ∀ parts value, put parts (set value) = set parts) :
      Fits (.list inner put) (.list inner.shape) set
  | built {γ : Type} {inner : Record} {put : List inner.Value → α → α} {set : γ → α}
      (build : List inner.Value → γ) (puts : ∀ parts value, put parts (set value) = set (build parts)) :
      Fits (.list inner put) (.convert build (.list inner.shape)) set
  | table {γ : Type} {inner : Record} {put : List (String × inner.Value) → α → α} {set : γ → α}
      (build : List (String × inner.Value) → γ)
      (puts : ∀ entries value, put entries (set value) = set (build entries)) :
      Fits (.table inner put) (.convert build (.table inner.shape)) set

/-- The fields of a record are those of its table, in order. `build` makes the record of their
values. -/
inductive Fields.Conforms : {σ β α : Type} → Fields σ β → (β → α) → List (RecordField α) → Prop
  | nil {α : Type} {build : Unit → α} : Conforms .nil build []
  | cons {σ β γ α : Type} {key : String} {shape : Shape γ} {default : Option γ} {more : Fields σ β}
      {build : γ × β → α} {field : RecordField α} {fields : List (RecordField α)} (named : field.key = key)
      (presence : ∀ others, field.presence.Fits shape default fun value => build (value, others))
      (contents : ∀ others, field.contents.Fits shape fun value => build (value, others))
      (rest : ∀ value, Conforms more (fun others => build (value, others)) fields) :
      Conforms (.cons key shape default more) build (field :: fields)

/-- The record is read field by field as its table has it. -/
def Record.Conforms (record : Record) : Prop :=
  ∃ (σ β : Type) (name : String) (fields : Fields σ β) (build : β → record.Value),
    record.shape = .convert build (.record name fields) ∧ fields.Conforms build record.fields

theorem Record.conforms (record : Record) (plain : record ≠ .component) : record.Conforms := by
  cases record with
  | component => exact absurd rfl plain
  | _ =>
    -- Field by field: the key, its presence with the default, its contents.
    refine ⟨_, _, _, _, _, rfl, ?_⟩
    repeat' first | intro _ | constructor

end Snapshot

namespace Component

open Snapshot

/-- What a component of a category declares beside the fields of all components is read field by
field as the table of the category has it. -/
def Declares {β : Type} (build : β × Kind → Component) (category : Category) : Prop :=
  ∃ (σ δ : Type) (fields : Fields σ δ) (make : δ → Kind),
    (∀ members, (Kind.cases.ofJson "type" (Vocabulary.name category) (.object members)).toOption =
      (fields.gather .setAside members).map make) ∧
    ∀ values, fields.Conforms (fun declared => build (values, make declared)) (declaredFields category)

theorem Declares.of_shape {β σ δ μ : Type} {build : β × Kind → Component} {category : Category} {record : String}
    {fields : Fields σ δ} {make : δ → μ} {wrap : μ → Kind} (metadata : Shape μ)
    (shape : metadata = .convert make (.record record fields))
    (cased : ∀ json, Kind.cases.ofJson "type" (Vocabulary.name category) json =
      (metadata.ofJson .setAside json).map wrap)
    (conforms : ∀ values, fields.Conforms (fun declared => build (values, wrap (make declared)))
      (declaredFields category)) : Declares build category := by
  refine ⟨σ, δ, fields, fun declared => wrap (make declared), fun members => ?_, conforms⟩
  rw [cased, shape, Shape.ofJson_convert, toOption_map, toOption_map, Shape.toOption_ofJson_record,
    Option.map_map]
  rfl

theorem conforms :
    ∃ (σ β : Type) (name : String) (fields : Fields σ β) (build : β × Kind → Component),
      shape = .convert build (.extended name fields "type" Kind.cases) ∧
      (∀ values kind, (build (values, kind)).kind = kind) ∧
      (∀ kind, fields.Conforms (fun values => build (values, kind)) ownFields) ∧
      ∀ category, Declares build category := by
  refine ⟨_, _, _, _, _, rfl, fun _ _ => rfl, fun kind => ?_, fun category => ?_⟩
  · repeat' first | intro _ | constructor
  · cases category with
    | processor =>
      refine .of_shape ProcessorMetadata.shape rfl (fun _ => rfl) fun values => ?_
      repeat' first | intro _ | constructor
    | controllerService =>
      refine .of_shape ControllerServiceMetadata.shape rfl (fun _ => rfl) fun values => ?_
      repeat' first | intro _ | constructor
    | reportingTask | flowAnalysisRule | parameterProvider =>
      exact ⟨_, _, .nil, fun () => _, fun _ => rfl, fun _ => .nil⟩

end Component

end ComponentDocs
