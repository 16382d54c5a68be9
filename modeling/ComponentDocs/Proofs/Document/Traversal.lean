import ComponentDocs.Proofs.Document.Headings
import ComponentDocs.Proofs.Steps

/-! The calls that writing a document makes on a writer, whatever the writer does: the hooks
of the category in canonical order up to the first that fails, and then one flush. -/
namespace ComponentDocs

open Vocabulary (words)

/-- What a writer is called for, apart from the values that go with it. -/
inductive Hook
  | header
  | heading (heading : Heading)
  | footer
deriving DecidableEq

namespace Hook

def appliesTo (category : Category) : Hook → Bool
  | .header | .footer => true
  | .heading known => known.appliesTo category

/-- The hooks for a component of some category, in the order of the calls. -/
def canonical (category : Category) : List Hook :=
  .header :: (((words : List Heading).filter (Heading.appliesTo category)).map .heading ++ [.footer])

theorem appliesTo_of_canonical {category : Category} {hook : Hook}
    (called : hook ∈ canonical category) : hook.appliesTo category := by
  simp only [canonical, List.mem_cons, List.mem_append, List.mem_map, List.mem_filter,
    List.not_mem_nil, or_false] at called
  rcases called with rfl | ⟨heading, ⟨-, applies⟩, rfl⟩ | rfl
  · rfl
  · exact applies
  · rfl

end Hook

namespace Section

def hook : Section → Hook
  | .header _ => .header
  | .name _ => .heading .name
  | .category _ => .heading .category
  | .deprecationNotice _ => .heading .deprecationNotice
  | .description _ => .heading .description
  | .tags _ => .heading .tags
  | .properties _ _ => .heading .properties
  | .dynamicProperties _ => .heading .dynamicProperties
  | .supportsSensitiveDynamicProperties _ => .heading .supportsSensitiveDynamicProperties
  | .relationships _ => .heading .relationships
  | .dynamicRelationship _ => .heading .dynamicRelationship
  | .readsAttributes _ => .heading .readsAttributes
  | .writesAttributes _ => .heading .writesAttributes
  | .triggerSerially _ => .heading .triggerSerially
  | .triggerWhenEmpty _ => .heading .triggerWhenEmpty
  | .triggerWhenAnyDestinationAvailable _ => .heading .triggerWhenAnyDestinationAvailable
  | .supportsBatching _ => .heading .supportsBatching
  | .primaryNodeOnly _ => .heading .primaryNodeOnly
  | .sideEffectFree _ => .heading .sideEffectFree
  | .defaultSettings _ => .heading .defaultSettings
  | .stateful _ => .heading .stateful
  | .restricted _ => .heading .restricted
  | .inputRequirement _ => .heading .inputRequirement
  | .systemResourceConsiderations _ => .heading .systemResourceConsiderations
  | .useCases _ => .heading .useCases
  | .multiProcessorUseCases _ => .heading .multiProcessorUseCases
  | .seeAlso _ => .heading .seeAlso
  | .defaultSchedule _ => .heading .defaultSchedule
  | .providedServiceApis _ => .heading .providedServiceApis
  | .footer _ => .footer

/-- A section has the values of the request itself. The interfaces of a controller service
are the passed ones, or the declared ones when none are passed. -/
def IsOwn (request : Request) : Section → Prop :=
  let component := request.component
  let declares (holds : ProcessorMetadata → Prop) : Prop :=
    ∃ metadata, component.kind = .processor metadata ∧ holds metadata
  fun
  | .header shown | .footer shown => shown = component
  | .name className => className = component.className
  | .category value => value = component.category
  | .deprecationNotice notice => notice = component.deprecationNotice
  | .description value => value = component.description
  | .tags values => values = component.tags
  | .properties declared services =>
    declared = component.properties ∧ services = request.propertyServices
  | .dynamicProperties declared => declared = component.dynamicProperties
  | .supportsSensitiveDynamicProperties supported =>
    supported = component.supportsSensitiveDynamicProperties
  | .relationships set => declares fun metadata => set = metadata.relationships
  | .dynamicRelationship relationship =>
    declares fun metadata => relationship = metadata.dynamicRelationship
  | .readsAttributes attributes => declares fun metadata => attributes = metadata.readsAttributes
  | .writesAttributes attributes => declares fun metadata => attributes = metadata.writesAttributes
  | .triggerSerially present => declares fun metadata => present = metadata.triggerSerially
  | .triggerWhenEmpty present => declares fun metadata => present = metadata.triggerWhenEmpty
  | .triggerWhenAnyDestinationAvailable present =>
    declares fun metadata => present = metadata.triggerWhenAnyDestinationAvailable
  | .supportsBatching present => declares fun metadata => present = metadata.supportsBatching
  | .primaryNodeOnly present => declares fun metadata => present = metadata.primaryNodeOnly
  | .sideEffectFree present => declares fun metadata => present = metadata.sideEffectFree
  | .defaultSettings settings => declares fun metadata => settings = metadata.defaultSettings
  | .stateful state => state = component.stateful
  | .restricted limits => limits = component.restricted
  | .inputRequirement requirement => requirement = component.inputRequirement
  | .systemResourceConsiderations considerations =>
    considerations = component.systemResourceConsiderations
  | .useCases cases => cases = component.useCases
  | .multiProcessorUseCases cases => cases = component.multiProcessorUseCases
  | .seeAlso related => related = component.seeAlso
  | .defaultSchedule schedule => schedule = component.defaultSchedule
  | .providedServiceApis apis => ∃ declared, component.kind = .controllerService declared ∧
    apis = if request.providedServiceApis = [] then declared.providedServiceApis
      else request.providedServiceApis

end Section

namespace Request

theorem sections_hooks (request : Request) :
    request.sections.map Section.hook = Hook.canonical request.component.category := by
  rw [Component.category]
  simp only [sections, providedApis]
  cases request.component.kind <;> rfl

theorem sections_own (request : Request) : ∀ part ∈ request.sections, part.IsOwn request := by
  simp only [sections, List.forall_mem_append, List.forall_mem_cons,
    Section.IsOwn, true_and]
  refine ⟨⟨?_, ?_⟩, by simp⟩
  · cases known : request.component.kind with
    | processor metadata =>
      simp [Kind.processor?, ProcessorMetadata.sections]
    | _ => simp [Kind.processor?]
  · simp only [providedApis]
    cases known : request.component.kind with
    | controllerService declared =>
      simp [Kind.controllerService?]
    | _ => simp [Kind.controllerService?]

end Request

namespace Writer

variable {σ ε : Type}

inductive Call
  | write (part : Section)
  | flush

/-- The writer, which behaves as before and keeps a record of all calls, the first one first. What
is told to the log is no call. -/
def recorded (writer : Writer σ ε) : Writer (σ × List Call) ε where
  write part state :=
    let outcome := writer.write part state.1
    (outcome.1, outcome.2, state.2 ++ [.write part])
  flush state :=
    let outcome := writer.flush state.1
    (outcome.1, outcome.2, state.2 ++ [.flush])
  note event state := (writer.note event state.1, state.2)
  message := writer.message

theorem recorded_note (writer : Writer σ ε) (event : Log.Event) (state : σ) (calls : List Call) :
    writer.recorded.note event (state, calls) = (writer.note event state, calls) := rfl

theorem recorded_message (writer : Writer σ ε) (error : ε) :
    writer.recorded.message error = writer.message error := rfl

theorem recorded_flush (writer : Writer σ ε) (state : σ) (calls : List Call) :
    writer.recorded.flush (state, calls) =
      ((writer.flush state).1, (writer.flush state).2, calls ++ [.flush]) := rfl

theorem recorded_succeeds {writer : Writer σ ε} {parts : List Section} {state last : σ}
    (succeeds : Succeeds writer.write parts state last) (calls : List Call) :
    Succeeds writer.recorded.write parts (state, calls) (last, calls ++ parts.map .write) := by
  induction succeeds generalizing calls with
  | nil => simpa only [List.map_nil, List.append_nil] using Succeeds.nil _
  | @cons part parts state next last taken _ ih =>
    have first : writer.recorded.write part (state, calls) =
        (.ok (), next, calls ++ [.write part]) := by
      simp only [recorded, taken]
    have others := ih (calls ++ [.write part])
    rw [List.append_assoc, List.singleton_append] at others
    exact .cons first others

theorem recorded_refused {writer : Writer σ ε} {before : List Section} {part : Section}
    {state reached failed : σ} {error : ε} (succeeds : Succeeds writer.write before state reached)
    (refused : writer.write part reached = (.error error, failed)) (behind : List Section)
    (calls : List Call) :
    eachStep writer.recorded.write (before ++ part :: behind) (state, calls) =
      (.error error, failed, calls ++ (before ++ [part]).map .write) := by
  have last : writer.recorded.write part (reached, calls ++ before.map .write) =
      (.error error, failed, calls ++ before.map .write ++ [.write part]) := by
    simp only [recorded, refused]
  rw [eachStep_append, (recorded_succeeds succeeds calls).eachStep]
  simp only [eachStep, last, List.map_append, List.map_cons, List.map_nil, List.append_assoc]

/-- A document on any writer. The calls are those of the hooks for the category of the
component, each with the values of the request, up to and including the first that fails;
then comes one flush. The first failure is the result, and without one the result is that of
the flush. The log is told of the beginning and of a success, and where the flush fails behind a
section that has failed, of the failure that is not the result. -/
theorem document_calls (writer : Writer σ ε) (request : Request) (state : σ) :
    ∃ parts : List Section, parts.map Section.hook = Hook.canonical request.component.category ∧
      (∀ part ∈ parts, part.IsOwn request) ∧
      let begun := writer.note request.component.openingEvent state
      let outcome := writer.document request state
      let record := writer.recorded.document request (state, [])
      let calls := record.2.2
      record = (outcome.1, outcome.2, calls) ∧
      ((∃ last, Succeeds writer.write parts begun last ∧
          calls = parts.map .write ++ [.flush] ∧
          outcome = match writer.flush last with
            | (.ok (), flushed) => (.ok (), writer.note request.component.closingEvent flushed)
            | (.error error, flushed) => (.error error, flushed)) ∨
        ∃ before part behind reached error failed, parts = before ++ part :: behind ∧
          Succeeds writer.write before begun reached ∧
          writer.write part reached = (.error error, failed) ∧
          calls = (before ++ [part]).map .write ++ [.flush] ∧
          outcome = (.error error, match writer.flush failed with
            | (.ok (), flushed) => flushed
            | (.error failure, flushed) =>
              writer.note (request.component.unflushedEvent (writer.message failure)) flushed)) ∧
      ∀ part, .write part ∈ calls → part.hook.appliesTo request.component.category := by
  refine ⟨request.sections, request.sections_hooks, request.sections_own, ?_⟩
  have applies (part : Section) (called : part ∈ request.sections) :
      part.hook.appliesTo request.component.category :=
    Hook.appliesTo_of_canonical (request.sections_hooks ▸ List.mem_map_of_mem called)
  rcases eachStep_cases writer.write request.sections (writer.note request.component.openingEvent state)
    with ⟨last, succeeds, written⟩ |
      ⟨before, part, behind, reached, error, failed, split, succeeds, refused, written⟩
  · have recorded := (recorded_succeeds succeeds []).eachStep
    have flushing := recorded_flush writer last ([] ++ request.sections.map .write)
    rcases flushed : writer.flush last with ⟨error | ⟨⟩, next⟩ <;>
      simp only [document, recorded_note, written, recorded, flushing, flushed]
    all_goals
      refine ⟨trivial, .inl ⟨last, succeeds, rfl, by rw [flushed]⟩, fun part called => applies part ?_⟩
      simpa using called
  · have recorded := recorded_refused succeeds refused behind []
    have flushing := recorded_flush writer failed ([] ++ (before ++ [part]).map .write)
    rw [← split] at recorded
    rcases flushed : writer.flush failed with ⟨other | ⟨⟩, next⟩ <;>
      simp only [document, recorded_note, written, recorded, flushing, flushed, recorded_message]
    all_goals
      refine ⟨trivial, .inr ⟨before, part, behind, reached, error, failed, split, succeeds, refused, rfl,
        by rw [flushed]⟩, fun other called => applies other ?_⟩
      have early : other ∈ before ∨ other = part := by simpa using called
      rw [split]
      rcases early with inside | rfl
      · exact List.mem_append_left _ inside
      · exact List.mem_append_right _ List.mem_cons_self

end Writer

end ComponentDocs
