import ComponentDocs.Document.Renderer
import ComponentDocs.Proofs.Snapshot.Insertion
import ComponentDocs.Proofs.Snapshot.Settling

/-! A snapshot is read by the keys that are known, wherever they stand. Neither the order of keys
nor any other key makes a difference to the snapshot, or to its documents. -/
namespace ComponentDocs

open Json (Members SameButOrder)

namespace Snapshot

/-- Values that differ only in the order of keys are read alike. -/
theorem Shape.Steady.ofJson_iff {α : Type} {shape : Shape α} (steady : shape.Steady) {first second : Json}
    (distinct : first.Distinct) (same : SameButOrder first second) (origin : Origin) (value : α) :
    shape.ofJson origin first = .ok value ↔ shape.ofJson origin second = .ok value := by
  -- Along the steps that lead from one value to the other; each can be undone.
  suffices steps : second.Distinct ∧
      (shape.ofJson origin first = .ok value ↔ shape.ofJson origin second = .ok value) from steps.2
  induction same with
  | refl => exact ⟨distinct, Iff.rfl⟩
  | tail _ reorders ih =>
    obtain ⟨distinct, reached⟩ := ih
    have distinct' := reorders.distinct distinct
    refine ⟨distinct', reached.trans ⟨?_, ?_⟩⟩
    · exact steady _ _ (reorders.settles distinct) origin value
    · exact steady _ _ (reorders.symm.settles distinct') origin value

theorem Shape.Steady.toOption_eq {α : Type} {shape : Shape α} (steady : shape.Steady) {first second : Json}
    (distinct : first.Distinct) (same : SameButOrder first second) (origin : Origin) :
    (shape.ofJson origin first).toOption = (shape.ofJson origin second).toOption :=
  toOption_eq_iff.mpr (steady.ofJson_iff distinct same origin)

end Snapshot

namespace Component

def ownKeys : List String :=
  ["className", "description", "tags", "properties", "dynamicProperties",
    "supportsSensitiveDynamicProperties", "deprecationNotice", "stateful", "restricted",
    "inputRequirement", "systemResourceConsiderations", "useCases", "multiProcessorUseCases",
    "seeAlso", "defaultSchedule"]

def kindKeys : Category → List String
  | .processor =>
    ["relationships", "dynamicRelationship", "readsAttributes", "writesAttributes",
      "triggerSerially", "triggerWhenEmpty", "triggerWhenAnyDestinationAvailable",
      "supportsBatching", "primaryNodeOnly", "sideEffectFree", "defaultSettings"]
  | .controllerService => ["providedServiceApis"]
  | .reportingTask | .flowAnalysisRule | .parameterProvider => []

def keys (category : Category) : List String := ownKeys ++ "type" :: kindKeys category

/-- The case that a kind is read from has the keys of its category. -/
theorem kindKeys_eq {tag case : String} {others : Members} {kind : Kind}
    (read : Kind.cases.ofJson tag case (.object others) = .ok kind) :
    Kind.cases.keys? case others = some (kindKeys kind.category) := by
  simp only [Kind.cases, Snapshot.Cases.ofJson, Snapshot.checkPlain] at read
  simp only [Kind.cases, Snapshot.Cases.keys?]
  by_cases processor : case = "PROCESSOR"
  · rw [if_pos processor, map_eq_ok_iff] at read
    obtain ⟨metadata, -, rfl⟩ := read
    rw [if_pos processor]
    rfl
  rw [if_neg processor] at read ⊢
  by_cases service : case = "CONTROLLER_SERVICE"
  · rw [if_pos service, map_eq_ok_iff] at read
    obtain ⟨metadata, -, rfl⟩ := read
    rw [if_pos service]
    rfl
  rw [if_neg service] at read ⊢
  split at read
  · next task =>
    cases read
    rw [if_pos task]
    rfl
  · next noTask =>
    rw [if_neg noTask]
    split at read
    · next rule =>
      cases read
      rw [if_pos rule]
      rfl
    · next noRule =>
      rw [if_neg noRule]
      split at read
      · next provider =>
        cases read
        rw [if_pos provider]
        rfl
      · cases read

/-- The keys that count in an object are those of the component that is read from it. -/
theorem keys?_shape {origin : Snapshot.Origin} {members : Members} {component : Component}
    (read : shape.ofJson origin (.object members) = .ok component) :
    shape.keys? members = some (keys component.category) := by
  rw [shape, Snapshot.Shape.ofJson, map_eq_ok_iff] at read
  obtain ⟨⟨values, kind⟩, read, rfl⟩ := read
  obtain ⟨-, case, others, named, inner⟩ := Snapshot.Shape.ofJson_extended_eq_ok_iff.mp read
  have counted := kindKeys_eq inner
  rw [shape, Snapshot.Shape.keys?, Snapshot.Shape.keys?, Snapshot.Cases.found?_of_ok named]
  simp only [counted]
  rfl

end Component

namespace Request

/-- What a value is read as, and with it every document, is settled by the keys that count:
nothing changes when keys of objects are put in another order at any depth, or when another key
is put, with any value, into an object that is read as a record. -/
theorem reading_goes_by_known_keys (first : Json) :
    (first.Distinct → ∀ second, SameButOrder first second →
      (Request.shape.ofJson .parsed first).toOption = (Request.shape.ofJson .parsed second).toOption ∧
      (Component.shape.ofJson .parsed first).toOption = (Component.shape.ofJson .parsed second).toOption ∧
      ∀ format options,
        ((Request.shape.ofJson .parsed first).toOption.map fun request => request.render format options) =
          ((Request.shape.ofJson .parsed second).toOption.map fun request => request.render format options) ∧
        ((Component.shape.ofJson .parsed first).toOption.map fun component =>
            (ofComponent component).render format options) =
          ((Component.shape.ofJson .parsed second).toOption.map fun component =>
            (ofComponent component).render format options)) ∧
    (∀ second, Request.shape.Adds first second → ∀ request,
      Request.shape.ofJson .parsed first = .ok request → Request.shape.ofJson .parsed second = .ok request) ∧
    (∀ second, Component.shape.Adds first second → ∀ component,
      Component.shape.ofJson .parsed first = .ok component →
        Component.shape.ofJson .parsed second = .ok component) ∧
    ∀ before after component, first = .object (before ++ after) →
      Component.shape.ofJson .parsed first = .ok component →
        Component.shape.keys? (before ++ after) = some (Component.keys component.category) ∧
        ∀ key ∉ Component.keys component.category, ∀ value,
          Component.shape.ofJson .parsed (.object (before ++ (key, value) :: after)) = .ok component := by
  refine ⟨?_, ?_, ?_, ?_⟩
  · intro distinct second same
    have requests := Request.shape_steady.toOption_eq distinct same .parsed
    have components := Component.shape_steady.toOption_eq distinct same .parsed
    refine ⟨requests, components, fun format options => ?_⟩
    rw [requests, components]
    exact ⟨rfl, rfl⟩
  · intro second adds request read
    exact adds.keeps .parsed request read
  · intro second adds component read
    exact adds.keeps .parsed component read
  · rintro before after component rfl read
    have counted := Component.keys?_shape read
    refine ⟨counted, ?_⟩
    intro key unknown value
    have adds : Component.shape.Adds (.object (before ++ after)) (.object (before ++ (key, value) :: after)) :=
      .here value counted unknown
    exact adds.keeps .parsed component read

/-- A reporting task is read whether its type comes first or last, and whatever stands under
the keys of processors and services. -/
theorem reading_goes_by_known_keys_task :
    let task : Component := { className := "A", kind := .reportingTask }
    let ordered : Json := .object [("className", .string "A"), ("type", .string "REPORTING_TASK")]
    Component.shape.ofJson .parsed (.object [("type", .string "REPORTING_TASK"), ("className", .string "A")]) =
        .ok task ∧
      Component.shape.ofJson .parsed (.object [("relationships", .null), ("className", .string "A"),
        ("type", .string "REPORTING_TASK")]) = .ok task ∧
      (Component.shape.Adds ordered (.object [("className", .string "A"),
          ("providedServiceApis", .bool true), ("type", .string "REPORTING_TASK")]) ∧
        Component.shape.ofJson .parsed (.object [("className", .string "A"),
          ("providedServiceApis", .bool true), ("type", .string "REPORTING_TASK")]) = .ok task) := by
  intro task ordered
  obtain ⟨order, -, adding, inserting⟩ := reading_goes_by_known_keys ordered
  have read : Component.shape.ofJson .parsed ordered = .ok task := rfl
  have distinct : ordered.Distinct := by
    refine .object (by decide) ?_
    simp only [List.forall_mem_cons, List.not_mem_nil, false_implies, implies_true, and_true]
    exact ⟨.string _, .string _⟩
  refine ⟨?_, ?_, ?_⟩
  · obtain ⟨-, same, -⟩ := order distinct (.object [("type", .string "REPORTING_TASK"), ("className", .string "A")])
      (.single (.members (.swap _ _ _)))
    rw [read] at same
    exact toOption_eq_some_iff.mp same.symm
  · obtain ⟨-, ignored⟩ := inserting [] _ task rfl read
    exact ignored "relationships" (by decide) .null
  · have counted : Component.shape.keys? ([("className", .string "A")] ++ [("type", .string "REPORTING_TASK")]) =
        some (Component.keys .reportingTask) := Component.keys?_shape read
    have adds := Snapshot.Shape.Adds.here (.bool true) counted
      (show "providedServiceApis" ∉ Component.keys .reportingTask by decide)
    exact ⟨adds, adding _ adds task read⟩

end Request

end ComponentDocs
