import ComponentDocs.Proofs.Json.Depth
import ComponentDocs.Proofs.Snapshot.ProvidedApis
import ComponentDocs.Proofs.Snapshot.TwoSteps

/-! A component on its own and a request that holds nothing else come to the same. Only in a text,
where values may be nested to a limit, the request takes one level more. -/
namespace ComponentDocs.Request

open Json (Members nestingLimit parseWithin)
open Snapshot

/-- What is read from a request with nothing but a component is read from the component. -/
theorem shape_alone (origin : Origin) (json : Json) :
    shape.ofJson origin (.object [("component", json)]) = (Component.shape.ofJson origin json).map ofComponent := by
  rw [shape, Shape.ofJson_convert]
  cases read : Component.shape.ofJson origin json <;>
    simp only [Shape.ofJson, Fields.need, List.foldlM_cons, List.foldlM_nil, Fields.fill, Fields.blank, read, if_true]
  · rfl
  · rfl

theorem ofJson_alone (json : Json) :
    ofJson (.object [("component", json)]) =
      ((Component.shape.ofJson .parsed json).map ofComponent).mapError .mismatch := by
  rw [ofJson_wrapped rfl, shape_alone]

/-- An object without a component is read as if it were the component. -/
theorem ofJson_bare {members : Members} (bare : Json.get? "component" members = none) :
    ofJson (.object [("component", .object members)]) = ofJson (.object members) := by
  have single : ¬ (Json.object members).isWrapped := by
    rw [Json.isWrapped, bare]
    exact Bool.false_ne_true
  rw [ofJson_alone, ofJson, if_neg single]

variable {levels : Nat} {text : String} {written : Json} {members : Members}

/-- A text is read like the normal form of what it holds. -/
theorem ofText_of_parseAll (all : Json.parseAll text = .ok written) : ofText text = ofJson written.normal := by
  simp only [ofText, Json.parse_eq, all, Except.map]

theorem ofText_of_fault {fault : Json.Fault} (refused : Json.parseAll text = .error fault) :
    ofText text = .error (.fault fault) := by
  simp only [ofText, Json.parse_eq, refused, Except.map]

/-- A text is read unless it is nested more deeply than a reader goes. -/
theorem ofText_of_within (read : parseWithin levels text = .ok written) :
    if written.depth ≤ nestingLimit then ofText text = ofJson written.normal
    else ∃ position, ofText text = .error (.fault ⟨.tooDeep, position⟩) := by
  have all := Json.parseAll_of_within read
  split at all
  · next fits =>
    rw [if_pos fits]
    exact ofText_of_parseAll all
  · next deep =>
    rw [if_neg deep]
    exact all.imp fun _ => ofText_of_fault

/-- The text of a request that holds the component of a text and nothing else. -/
def wrapping (text : String) : String := "\x7b\"component\":" ++ text ++ "\x7d"

theorem toList_wrapping (text : String) : (wrapping text).toList = Json.enclosing "component" text.toList := by
  simp only [wrapping, String.toList_append, Json.enclosing]
  rfl

/-- In a request it has one level less. -/
theorem ofText_wrapping (read : parseWithin levels text = .ok written) :
    if written.depth < nestingLimit then
      ofText (wrapping text) = ofJson (.object [("component", written.normal)])
    else ∃ position, ofText (wrapping text) = .error (.fault ⟨.tooDeep, position⟩) := by
  have all := Json.parseAll_enclosing "component" read (toList_wrapping text)
  split at all
  · next fits =>
    rw [if_pos fits]
    exact ofText_of_parseAll all
  · next deep =>
    rw [if_neg deep]
    exact all.imp fun _ => ofText_of_fault

/-- A component may be given on its own or as the component of a request, and the interfaces of a
controller service may be declared by the component or passed with the request. An object without
a `component` comes to the same request, or to the same error, in either form; as a text it does
so at any nesting that leaves one level for the request, of a text with all levels only the bare
form is read, and of a deeper one neither. A list that moves from the component to the request
leaves all documents as they are, whatever list the component has afterwards; and a list that is
passed with another component makes no difference. -/
theorem interchangeable_forms :
    (∀ members, Json.get? "component" members = none →
      ofJson (.object [("component", .object members)]) = ofJson (.object members)) ∧
    (∀ levels text written members, parseWithin levels text = .ok written → written.normal = .object members →
      Json.get? "component" members = none →
        (written.depth < nestingLimit → ofText (wrapping text) = ofText text) ∧
        (written.depth ≤ nestingLimit → ofText text = ofJson (.object members)) ∧
        (nestingLimit ≤ written.depth →
          ∃ position, ofText (wrapping text) = .error (.fault ⟨.tooDeep, position⟩)) ∧
        (nestingLimit < written.depth → ∃ position, ofText text = .error (.fault ⟨.tooDeep, position⟩))) ∧
    (∀ members others first second request items, ofJson (.object members) = .ok request →
      request.component.category = .controllerService → request.providedServiceApis = [] → items ≠ [] →
      MovesApis items members others first second →
        ∃ request', ofJson (.object others) = .ok request' ∧
          ∀ format options, request'.render format options = request.render format options) ∧
    (∀ members others request, ofJson (.object members) = .ok request →
      request.component.category ≠ .controllerService → PassesApis members others →
        ∃ request', ofJson (.object others) = .ok request' ∧
          ∀ format options, request'.render format options = request.render format options) := by
  refine ⟨fun members => ofJson_bare, fun levels text written members read normal bare => ?_,
    fun _ _ _ _ _ _ => render_moved, fun _ _ _ => render_passed⟩
  have alone := ofText_of_within read
  have wrapped := ofText_wrapping read
  rw [normal] at alone wrapped
  refine ⟨fun fits => ?_, fun fits => ?_, fun deep => ?_, fun deep => ?_⟩
  · rw [if_pos fits] at wrapped
    rw [if_pos fits.le] at alone
    rw [wrapped, alone, ofJson_bare bare]
  · rwa [if_pos fits] at alone
  · rwa [if_neg deep.not_gt] at wrapped
  · rwa [if_neg deep.not_ge] at alone

/-- An interface of a service. -/
def storeApi : Json :=
  .object [("className", .string "Api"), ("groupId", .string "g"), ("artifactId", .string "a"),
    ("version", .string "1")]

/-- A component with nothing but its name and category. -/
def namedMembers (className category : String) : Members :=
  [("className", .string className), ("type", .string category)]

/-- A service in both forms and with its interface in both places, and a task without and with the
interface. -/
theorem interchangeable_forms_of_service :
    let service := namedMembers "S" "CONTROLLER_SERVICE"
    let declaring := service ++ [("providedServiceApis", .array [storeApi])]
    let text := "\x7b\"className\":\"S\",\"type\":\"CONTROLLER_SERVICE\"\x7d"
    let task := namedMembers "T" "REPORTING_TASK"
    ofJson (.object [("component", .object declaring)]) = ofJson (.object declaring) ∧
    ofText (wrapping text) = ofText text ∧ ofText text = ofJson (.object service) ∧
    (∃ request request', ofJson (.object [("component", .object declaring)]) = .ok request ∧
      ofJson (.object [("component", .object service), ("providedServiceApis", .array [storeApi])]) = .ok request' ∧
      ∀ format options, request'.render format options = request.render format options) ∧
    ∃ request request', ofJson (.object [("component", .object task)]) = .ok request ∧
      ofJson (.object [("component", .object task), ("providedServiceApis", .array [storeApi])]) = .ok request' ∧
      ∀ format options, request'.render format options = request.render format options := by
  intro service declaring text task
  obtain ⟨bare, written, moved, passed⟩ := interchangeable_forms
  have read : parseWithin nestingLimit text = .ok (.object service) := by cbv
  obtain ⟨same, shown, -⟩ := written nestingLimit text (.object service) service read rfl rfl
  refine ⟨bare declaring rfl, same (by decide), shown (by decide), ?_, ?_⟩
  · have known : (ofJson (.object [("component", .object declaring)])).toOption.map
        (fun request => (request.component.category, request.providedServiceApis)) =
          some (.controllerService, []) := by decide +kernel
    obtain ⟨request, found, same⟩ := Option.map_eq_some_iff.mp known
    rw [Prod.mk.injEq] at same
    have read := toOption_eq_some_iff.mp found
    obtain ⟨request', read', same⟩ := moved _ [("component", .object service),
      ("providedServiceApis", .array [storeApi])] declaring service request [storeApi] read same.1 same.2
      (List.cons_ne_nil _ _)
      { held := rfl, declared := rfl, held' := rfl, left := ⟨[], rfl⟩, passed := rfl
        within := fun key other => by
          rw [Json.values_append, Json.values_cons, if_neg other.symm]
          exact (List.append_nil _).symm
        beside := fun key other other' => by simp [Json.values_cons, other.symm, other'.symm] }
    exact ⟨request, request', read, read', same⟩
  · have known : (ofJson (.object [("component", .object task)])).toOption.map
        (fun request => request.component.category) = some .reportingTask := by decide +kernel
    obtain ⟨request, found, category⟩ := Option.map_eq_some_iff.mp known
    have read := toOption_eq_some_iff.mp found
    obtain ⟨request', read', same⟩ := passed _ [("component", .object task),
      ("providedServiceApis", .array [storeApi])] request read (by rw [category]; decide)
      { held := ⟨.object task, rfl⟩, passed := ⟨_, rfl, [⟨"Api", "g", "a", "1"⟩], rfl⟩
        beside := fun key other => by simp [Json.values_cons, other.symm] }
    exact ⟨request, request', read, read', same⟩

/-- An accepted object without a component that has all levels of a text. -/
def fillsLevels : Json → Bool
  | .object members => (Json.object members).depth == nestingLimit &&
    (Json.get? "component" (Json.merge (Json.normalMembers members))).isNone &&
    (ofJson (Json.object members).normal).toOption.isSome
  | _ => false

/-- The text of a task with a member that nothing reads, whose lists are nested that deeply. -/
def nestedChars : List Char :=
  "\x7b\"className\":\"S\",\"type\":\"REPORTING_TASK\",\"zzz\":".toList ++
    (List.replicate 126 '[' ++ (List.replicate 126 ']' ++ ['}']))

/-- On its own it is accepted, as the component of a request it is refused. -/
theorem nested_read_only_bare : let text := String.ofList nestedChars
    ∃ members request position, Json.parse text = .ok (.object members) ∧
      Json.get? "component" members = none ∧ ofText text = .ok request ∧
      ofText (wrapping text) = .error (.fault ⟨.tooDeep, position⟩) := by
  intro text
  have held : text.toList = nestedChars := String.toList_ofList
  have known : (parseWithin nestingLimit text).toOption.map fillsLevels = some true := by
    rw [parseWithin, Json.Cursor.ofText, held]
    decide +kernel
  obtain ⟨written, found, fills⟩ := Option.map_eq_some_iff.mp known
  cases written with
  | object members =>
    simp only [fillsLevels, Bool.and_eq_true, beq_iff_eq, Option.isNone_iff_eq_none,
      Option.isSome_iff_exists] at fills
    obtain ⟨⟨depth, bare⟩, request, accepted⟩ := fills
    have read := toOption_eq_some_iff.mp found
    have alone := Json.parseAll_of_within read
    rw [depth, if_pos le_rfl] at alone
    have wrapped := ofText_wrapping read
    rw [depth, if_neg (lt_irrefl _)] at wrapped
    obtain ⟨position, wrapped⟩ := wrapped
    refine ⟨_, request, position, ?_, bare, (ofText_of_parseAll alone).trans (toOption_eq_some_iff.mp accepted),
      wrapped⟩
    rw [Json.parse_eq, alone]
    rfl
  | null | bool | number | string | array => cases fills

end ComponentDocs.Request
