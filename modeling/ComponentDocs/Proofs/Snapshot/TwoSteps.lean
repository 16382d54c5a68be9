import ComponentDocs.Proofs.Json.Normal
import ComponentDocs.Proofs.Snapshot.Settling
import ComponentDocs.Proofs.Snapshot.StreamedRecords
import ComponentDocs.Snapshot.Request
import Mathlib

/-! Two ways from a text to a request: by way of a JSON value, which keeps the last of equal keys,
and directly, which meets all of them. What is read directly is read by way of a value as well;
the converse holds where no object has a key twice. -/
namespace ComponentDocs

namespace Json

/-- No object in the text has two members with one key. -/
def RepeatsNoKey (text : String) : Prop := ∀ json, parseAll text = .ok json → json.Distinct

/-- A text that holds a value holds one with all members, of which the value is the normal form. -/
theorem exists_parseAll {text : String} {json : Json} (parsed : parse text = .ok json) :
    ∃ written, parseAll text = .ok written ∧ written.normal = json := by
  rw [parse_eq, map_eq_ok_iff] at parsed
  exact parsed

end Json

namespace Snapshot

theorem Shape.parse_alike {α : Type} (shape : Shape α) {text : String} {json : Json}
    (written : Json.parseAll text = .ok json) :
    Alike Eq (shape.parse text) (shape.ofJson .parsed json) := by
  rw [Json.parseAll, bind_eq_ok_iff] at written
  obtain ⟨⟨found, behind⟩, read, closed⟩ := written
  obtain ⟨_, finished, same⟩ := bind_eq_ok_iff.mp closed
  obtain rfl : found = json := Except.ok.inj same
  have streamed := shape.streams _ _ _ _ read
  rw [Shape.parse]
  generalize shape.ofText Json.nestingLimit (.ofText text) = direct, shape.ofJson .parsed found = indirect
    at streamed ⊢
  cases streamed with
  | both same =>
    rw [same]
    simp only [bind, Except.bind, finished]
    exact .both rfl
  | neither error mismatch => exact .neither _ _

/-- What a steady shape reads directly, it reads from the normal form of the value. -/
theorem Shape.Steady.of_parse {α : Type} {shape : Shape α} (steady : shape.Steady) {text : String} {json : Json}
    (written : Json.parseAll text = .ok json) {value : α} (direct : shape.parse text = .ok value) :
    shape.ofJson .parsed json.normal = .ok value :=
  steady _ _ (Json.settles_normal json) .parsed value ((shape.parse_alike written).ok_iff.mp direct)

/-- With distinct keys the normal form is the value itself, so it is read directly as well. -/
theorem Shape.parse_of_distinct {α : Type} (shape : Shape α) {text : String} {json : Json}
    (written : Json.parseAll text = .ok json) (distinct : json.Distinct) {value : α}
    (read : shape.ofJson .parsed json.normal = .ok value) : shape.parse text = .ok value := by
  rw [Json.normal_of_distinct distinct] at read
  exact (shape.parse_alike written).ok_iff.mpr read

end Snapshot

namespace Request

/-- Reads a request directly from a text. Only whether it has a `component` is looked up in a
value beforehand. -/
def readDirectly (text : String) : Except Snapshot.ReadError Request :=
  match Json.parse text with
  | .error fault => .error (.fault fault)
  | .ok json =>
    if json.isWrapped then Request.shape.parse text
    else (Component.shape.parse text).map ofComponent

/-- What is read directly is read by way of a value, and where no key comes twice the converse
holds as well. -/
theorem read_in_two_steps {text : String} {json : Json} (parsed : Json.parse text = .ok json) :
    (∀ request, readDirectly text = .ok request → ofText text = .ok request) ∧
      (Json.RepeatsNoKey text → ∀ request, ofText text = .ok request → readDirectly text = .ok request) := by
  obtain ⟨written, all, rfl⟩ := Json.exists_parseAll parsed
  simp only [readDirectly, ofText, ofJson, parsed, mapError_eq_ok_iff]
  constructor
  · intro request direct
    split at direct
    · next wrapped =>
      rw [if_pos wrapped]
      exact Request.shape_steady.of_parse all direct
    · next single =>
      rw [if_neg single]
      rw [map_eq_ok_iff] at direct ⊢
      obtain ⟨component, direct, built⟩ := direct
      exact ⟨component, Component.shape_steady.of_parse all direct, built⟩
  · intro once request read
    have distinct : written.Distinct := once written all
    split at read
    · next wrapped =>
      rw [if_pos wrapped]
      exact Request.shape.parse_of_distinct all distinct read
    · next single =>
      rw [if_neg single]
      rw [map_eq_ok_iff] at read ⊢
      obtain ⟨component, read, built⟩ := read
      exact ⟨component, Component.shape.parse_of_distinct all distinct read, built⟩

/-- A component on its own, with a key of its kind before the tag. -/
def logText : String := "\x7b\"className\":\"Log\",\"sideEffectFree\":true,\"type\":\"PROCESSOR\"\x7d"

/-- Both ways lead to the component of the text, and each way leads there if the other one does. -/
theorem read_in_two_steps_log : ∃ json request, Json.parse logText = .ok json ∧ Json.RepeatsNoKey logText ∧
    readDirectly logText = .ok request ∧ ofText logText = .ok request ∧ request.component.className = "Log" := by
  have parsed : Json.parse logText = .ok (.object
      [("className", .string "Log"), ("sideEffectFree", .bool true), ("type", .string "PROCESSOR")]) := by cbv
  have once : Json.RepeatsNoKey logText := by
    intro json written
    have all : Json.parseAll logText = .ok (.object
        [("className", .string "Log"), ("sideEffectFree", .bool true), ("type", .string "PROCESSOR")]) := by cbv
    obtain rfl := Except.ok.inj (all.symm.trans written)
    refine .object (by decide) ?_
    simp only [List.forall_mem_cons]
    exact ⟨.string _, .bool _, .string _, List.forall_mem_nil _⟩
  have named : (readDirectly logText).toOption.map (·.component.className) = some "Log" := by cbv
  obtain ⟨request, direct, className⟩ := Option.map_eq_some_iff.mp named
  have read := (read_in_two_steps parsed).1 request (toOption_eq_some_iff.mp direct)
  exact ⟨_, request, parsed, once, (read_in_two_steps parsed).2 once request read, read, className⟩

/-- Directly a key is refused when it comes again, while a value has the last of both. -/
example :
    let text := "\x7b\"className\":\"First\",\"className\":\"Last\",\"type\":\"PROCESSOR\"\x7d"
    (readDirectly text).toOption.isNone ∧
      (ofText text).toOption.map (·.component.className) = some "Last" := by
  constructor
  · cbv
  · cbv

end Request

end ComponentDocs
