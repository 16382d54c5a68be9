import ComponentDocs.Proofs.Component.References

/-! What the writer of a document tells the log. In XML each hook adds its lines to those before
it, and only that of the properties has any; no hook of JSON adds one. -/
namespace ComponentDocs

def Log.fallBackEvent (name : String) : Event where
  level := .debug
  target := "extdoc::render::xml"
  message := "no service API resolved, using placeholder coordinates"
  fields := [("property", name)]

namespace Markup.Step

def note? : Step → Option Log.Event
  | .emit _ => none
  | .note event => some event

def notes (steps : List Step) : List Log.Event := steps.filterMap note?

@[simp] theorem notes_nil : notes [] = [] := rfl

@[simp] theorem notes_note (event : Log.Event) (steps : List Step) :
    notes (.note event :: steps) = event :: notes steps := rfl

@[simp] theorem notes_emit (event : Event) (steps : List Step) :
    notes (.emit event :: steps) = notes steps := rfl

@[simp] theorem notes_append (first second : List Step) :
    notes (first ++ second) = notes first ++ notes second := List.filterMap_append

@[simp] theorem notes_flatMap {α : Type} (items : List α) (steps : α → List Step) :
    notes (items.flatMap steps) = items.flatMap fun item => notes (steps item) := List.filterMap_flatMap

@[simp] theorem notes_ite (condition : Prop) [Decidable condition] (first second : List Step) :
    notes (if condition then first else second) = if condition then notes first else notes second :=
  apply_ite notes condition first second

@[simp] theorem notes_element (name : String) (inside : List Step) :
    notes (element name inside) = notes inside := by
  simp [element]

@[simp] theorem notes_text (name : String) (value : Option String) : notes (text name value) = [] := by
  simp [text]

@[simp] theorem notes_bool (name : String) (value : Bool) : notes (bool name value) = [] :=
  notes_text ..

@[simp] theorem notes_flag (name : String) (present : Bool) : notes (flag name present) = [] := by
  simp [flag]

@[simp] theorem notes_array {α : Type} (name : String) (items : List α) (item : α → List Step) :
    notes (array name items item) = items.flatMap fun value => notes (item value) := by
  simp [array]

/-- A value that may be absent is written in silence if every value is. -/
theorem notes_given {α : Type} {steps : α → List Step} (silent : ∀ value, notes (steps value) = [])
    (value : Option α) : notes (given value steps) = [] := by
  cases value with
  | none => rfl
  | some value => exact silent value

@[simp] theorem notes_texts (outer inner : String) (values : List String) :
    notes (texts outer inner values) = [] := by
  simp [texts]

/-- Of all that is written of a property, the reference alone has a line in the log. -/
theorem notes_property (services : PropertyServices) (declared : PropertyDescriptor) :
    notes (property services declared) =
      if declared.fallsBack services then [Log.fallBackEvent declared.name] else [] := by
  have reference : notes (given declared.controllerServiceDefinition (service services declared)) =
      if declared.fallsBack services then [Log.fallBackEvent declared.name] else [] := by
    rw [PropertyDescriptor.fallsBack]
    cases declared.controllerServiceDefinition with
    | none => rfl
    | some className =>
      simp only [given, service, notes_element]
      cases services.find? declared.name with
      | none => simp [placeholderEvent, Log.fallBackEvent]
      | some api => simp [serviceApiFields]
  have value : notes (given declared.defaultValue fun value => text "defaultValue" (some value)) = [] :=
    notes_given (by simp) _
  have scope : notes (given declared.expressionLanguageScope fun scope =>
      text "expressionLanguageScope" (some (Vocabulary.name scope))) = [] := notes_given (by simp) _
  have resource (value : ResourceDefinition) : notes (resources value) = [] :=
    notes_given (by simp) value.cardinality
  have dependency (other : PropertyDependency) : notes (dependency other) = [] := by
    simp [dependency, notes_given]
  simp [property, reference, value, scope, notes_given resource, dependency, allowableValue]

end Markup.Step

/-- What writing a section as XML tells the log: how many properties there are, and of each that
falls back. -/
def Section.told : Section → List Log.Event
  | .properties [] _ => []
  | .properties (first :: others) services =>
    Markup.Step.propertiesEvent (first :: others).length ::
      ((first :: others).filter (PropertyDescriptor.fallsBack services)).map fun property =>
        Log.fallBackEvent property.name
  | _ => []

namespace Markup.Step

theorem notes_properties (services : PropertyServices) (declared : List PropertyDescriptor) :
    declared.flatMap (fun property => notes (Step.property services property)) =
      (declared.filter (PropertyDescriptor.fallsBack services)).map fun property =>
        Log.fallBackEvent property.name := by
  induction declared with
  | nil => rfl
  | cons first others ih =>
    rw [List.flatMap_cons, ih, notes_property, List.filter_cons]
    split <;> rfl

theorem notes_ofSection (declares : Bool) (part : Section) : notes (ofSection declares part) = part.told := by
  cases part with
  | properties declared services =>
    cases declared with
    | nil => rfl
    | cons first others =>
      simp only [ofSection, List.isEmpty_cons, Bool.false_eq_true, if_false, notes_note, notes_array,
        notes_properties, Section.told]
  | header | footer => cases declares <;> rfl
  | deprecationNotice notice => exact notes_given (by simp [deprecationNotice]) notice
  | stateful state => exact notes_given (by simp [stateful]) state
  | restricted limits => exact notes_given (by simp [restricted, restriction, notes_given]) limits
  | seeAlso related => simp [ofSection, seeAlso, Section.told]
  | _ => simp [ofSection, Section.told, notes_given, attributes, attributeNamed, dynamicProperty, relationship,
      dynamicRelationship, defaultSettings, considerations, resourceUse, useCase, multiProcessorUseCase,
      processorConfiguration, defaultSchedule, serviceApiFields]

end Markup.Step

namespace Markup.DocumentWriter

theorem log_emit (event : Event) (writer : DocumentWriter) : (emit event writer).2.log = writer.log := by
  cases event with
  | declaration | text => rfl
  | start name =>
    rw [emit]
    rcases known : writer.put (writer.lead ++ startTag name) (fun margin => margin.deeper.afterTag)
      with ⟨failure | ⟨⟩, next⟩ <;>
      exact congrArg (fun outcome => outcome.2.log) known.symm
  | finish =>
    rw [emit]
    split <;> rfl

/-- A step adds its line behind those that are there, whether or not the sink fails. -/
theorem log_perform (step : Step) (writer : DocumentWriter) :
    (perform step writer).2.log = writer.log ++ step.note?.toList := by
  cases step with
  | emit event => exact (log_emit event writer).trans (List.append_nil _).symm
  | note event => rfl

/-- Steps that all succeed add their lines one after another. -/
theorem log_performAll {steps : List Step} {writer last : DocumentWriter}
    (succeeds : Succeeds perform steps writer last) : last.log = writer.log ++ Step.notes steps := by
  induction succeeds with
  | nil => exact (List.append_nil _).symm
  | @cons step steps writer next last taken _ ih =>
    have first := log_perform step writer
    rw [taken] at first
    rw [ih, first, List.append_assoc]
    cases step <;> rfl

/-- Sections that are all written add their lines one after another. -/
theorem log_writeAll {parts : List Section} {writer last : DocumentWriter}
    (written : eachStep write parts writer = (.ok (), last)) :
    last.log = writer.log ++ parts.flatMap Section.told := by
  rw [writeAll_eq] at written
  rw [log_performAll (succeeds_of_eachStep written), Step.notes_flatMap]
  simp only [Step.notes_ofSection]

end Markup.DocumentWriter

namespace Json.DocumentWriter

theorem log_write (part : Section) (writer : DocumentWriter) : (write part writer).2.log = writer.log := by
  cases part with
  | header => rfl
  | footer =>
    rw [write, deliver]
    split <;> rfl
  | _ =>
    simp only [write]
    split <;> rfl

end Json.DocumentWriter

namespace Renderer

variable {parts : List Section} {last : Renderer}

theorem log_note (event : Log.Event) (renderer : Renderer) :
    (renderer.note event).log = renderer.log ++ [event] := by
  cases renderer <;> rfl

theorem log_flush (renderer : Renderer) : renderer.flush.2.log = renderer.log := by
  cases renderer <;> rfl

theorem log_xml {writer : Markup.DocumentWriter}
    (written : eachStep write parts (.xml writer) = (.ok (), last)) :
    last.log = writer.log ++ parts.flatMap Section.told := by
  rw [eachStep_embed write Renderer.xml (fun _ _ => rfl)] at written
  rcases outcome : eachStep Markup.DocumentWriter.write parts writer with ⟨result, reached⟩
  rw [outcome] at written
  cases written
  exact Markup.DocumentWriter.log_writeAll outcome

theorem log_json {writer : Json.DocumentWriter}
    (written : eachStep write parts (.json writer) = (.ok (), last)) : last.log = writer.log := by
  rw [eachStep_embed write Renderer.json (fun _ _ => rfl)] at written
  obtain rfl := congrArg Prod.snd written
  exact eachStep_keeps (fun next : Json.DocumentWriter => next.log = writer.log)
    (fun part next same => (Json.DocumentWriter.log_write part next).trans same) parts rfl

end Renderer

namespace Request

variable (request : Request)

theorem flatMap_told : request.sections.flatMap Section.told =
    (Section.properties request.component.properties request.propertyServices).told := by
  simp only [sections]
  cases request.component.kind.processor? <;> cases request.providedApis <;>
    simp [ProcessorMetadata.sections, Section.told]

def openingEvent : Log.Event where
  level := .debug
  target := "extdoc::traversal"
  message := "writing extension document"
  fields := [("class", request.component.className), ("category", Vocabulary.name request.component.category)]

def closingEvent : Log.Event where
  level := .debug
  target := "extdoc::traversal"
  message := "extension document complete"
  fields := [("class", request.component.className)]

/-- What the sections of a document tell the log. -/
def told (format : Format) : List Log.Event :=
  match format with
  | .xml => (Section.properties request.component.properties request.propertyServices).told
  | .json => []

/-- The log of a renderer of either format whose sections have all been written. -/
theorem log_sections {format : Format} {options : Options} {last : Renderer}
    (written : eachStep Renderer.write request.sections
      ((Renderer.create format options {}).begun request) = (.ok (), last)) :
    last.log = request.openingEvent :: request.told format := by
  cases format with
  | xml =>
    have noted := Renderer.log_xml (written : eachStep Renderer.write request.sections (.xml _) = _)
    rw [noted, request.flatMap_told]
    rfl
  | json => exact Renderer.log_json (written : eachStep Renderer.write request.sections (.json _) = _)

/-- The log of a document in memory: the sections have their lines between the first and the last. -/
theorem renderNoting_told (format : Format) (options : Options) :
    (request.renderNoting format options).2 =
      request.openingEvent :: (request.told format ++ [request.closingEvent]) := by
  have rendered := request.render_eq format options
  rw [render] at rendered
  rw [renderNoting] at rendered ⊢
  simp only [Renderer.document, Writer.document] at rendered ⊢
  rcases written : eachStep Renderer.writer.write request.sections
      (Renderer.writer.note request.component.openingEvent (.create format options {}))
    with ⟨failure | ⟨⟩, reached⟩ <;> simp only [written] at rendered ⊢
  · rcases flushed : Renderer.writer.flush reached with ⟨other | ⟨⟩, last⟩ <;>
      simp only [flushed] at rendered <;> cases rendered
  · rcases flushed : Renderer.writer.flush reached with ⟨other | ⟨⟩, last⟩ <;>
      simp only [flushed] at rendered ⊢
    · cases rendered
    · obtain rfl : reached.flush.2 = last := congrArg Prod.snd flushed
      have lines := request.log_sections written
      have closed := Renderer.log_note request.closingEvent reached.flush.2
      rw [Renderer.log_flush, lines, List.cons_append] at closed
      exact closed

end Request

end ComponentDocs
