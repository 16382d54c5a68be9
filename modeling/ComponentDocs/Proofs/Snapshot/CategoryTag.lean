import ComponentDocs.Proofs.Document.Headings
import ComponentDocs.Proofs.Snapshot.Insertion
import ComponentDocs.Proofs.Snapshot.StreamedRecords
import ComponentDocs.Snapshot.Request
import Mathlib.Data.List.Permutation

/-! The tag of a component: what selects its category when a snapshot is read, and where the
category stands when it is written. A tag is one of the five names. Its place beside the other
members of the component makes the position of a name do as well. -/
namespace ComponentDocs

open Json (Members)
open Markup (Node)
open Snapshot
open Vocabulary (name words)

/-- The category that a tag selects: the one of a name, or of the position of a name. -/
def Category.ofTag : Json → Option Category
  | .string text => (Category.ofText text).toOption
  | .number (.natural position) => words[position]?
  | _ => none

theorem Vocabulary.map_name_parse? {α : Type} [Vocabulary α] (text : String) :
    ((parse? text : Option α).map name) = if text ∈ (words : List α).map name then some text else none := by
  rw [parse?]
  induction (words : List α) with
  | nil => rfl
  | cons word others ih =>
    by_cases same : name word = text
    · simp [same]
    · simpa [same, Ne.symm same] using ih

namespace Kind

theorem cases_names : cases.names = (words : List Category).map name := by decide

theorem tagOfJson_eq_ok_iff {tag : Json} {case : String} :
    tagOfJson .setAside cases.names tag = .ok case ↔ (Category.ofTag tag).map name = some case := by
  cases tag with
  | string text =>
    have parsed : (Category.ofText text).toOption = Vocabulary.parse? text := by
      rw [Category.ofText]
      cases (Vocabulary.parse? text : Option Category) <;> rfl
    rw [Category.ofTag, parsed, Vocabulary.map_name_parse?, ← cases_names, tagOfJson]
    split <;> simp
  | number value =>
    cases value with
    | natural position =>
      rw [Category.ofTag, tagOfJson, if_pos rfl, cases_names, List.getElem?_map]
      cases (words : List Category)[position]? <;> simp
    | negative | float => simp [tagOfJson, Category.ofTag]
  | null | bool | array | object => simp [tagOfJson, Category.ofTag]

/-- A case is read as a kind of the category of its name. -/
theorem category_of_case {tag case : String} {json : Json} {kind : Kind}
    (read : cases.ofJson tag case json = .ok kind) : case = name kind.category := by
  simp only [cases, Cases.ofJson] at read
  repeat' split at read
  · obtain ⟨metadata, -, rfl⟩ := map_eq_ok_iff.mp read
    assumption
  · obtain ⟨metadata, -, rfl⟩ := map_eq_ok_iff.mp read
    assumption
  · obtain ⟨-, -, rfl⟩ := map_eq_ok_iff.mp read
    assumption
  · obtain ⟨-, -, rfl⟩ := map_eq_ok_iff.mp read
    assumption
  · obtain ⟨-, -, rfl⟩ := map_eq_ok_iff.mp read
    assumption
  · cases read

end Kind

/-- A tag that selects a category is a name of it, unless it is a number. -/
theorem Category.named_iff_of_ofTag {tag : Json} {category : Category} (selected : ofTag tag = some category) :
    (∃ text, tag = .string text ∧ ofText text = .ok category) ↔ ∀ position, tag ≠ .number (.natural position) := by
  constructor
  · rintro ⟨text, rfl, -⟩ position
    nofun
  · intro noPosition
    cases tag with
    | string text =>
      rw [ofTag, toOption_eq_some_iff] at selected
      exact ⟨text, rfl, selected⟩
    | number value =>
      cases value with
      | natural position => exact absurd rfl (noPosition position)
      | negative | float => cases selected
    | null | bool | array | object => cases selected

/-- The value is an object with one tag, and that tag selects the category: it is a name of the
category exactly if it is not a position. -/
def Category.Tags (json : Json) (category : Category) : Prop :=
  ∃ members tag, json = .object members ∧ Json.values "type" members = [tag] ∧
    Category.ofTag tag = some category ∧
    ((∃ text, tag = .string text ∧ Category.ofText text = .ok category) ↔
      ∀ position, tag ≠ .number (.natural position))

theorem Component.tags_of_ok {origin : Origin} {json : Json} {component : Component}
    (read : Component.shape.ofJson origin json = .ok component) :
    Category.Tags json component.category := by
  rw [shape, Shape.ofJson_convert] at read
  obtain ⟨⟨values, kind⟩, object, rfl⟩ := map_eq_ok_iff.mp read
  cases json with
  | object members =>
    obtain ⟨-, case, others, tagged, kindRead⟩ := Shape.ofJson_extended_eq_ok_iff.mp object
    obtain ⟨tag, only, isCase, -⟩ := caseOfMembers_eq_ok_iff.mp tagged
    obtain ⟨category, selected, named⟩ := Option.map_eq_some_iff.mp (Kind.tagOfJson_eq_ok_iff.mp isCase)
    rw [Kind.category_of_case kindRead, Vocabulary.name_inj] at named
    rw [named] at selected
    refine ⟨members, tag, rfl, ?_, selected, Category.named_iff_of_ofTag selected⟩
    -- The tag is no field of its own, so it is looked for among all members.
    rw [Json.values_filter fun key => !Fields.has _ key] at only
    exact only
  | null | bool | number | string | array =>
    simp only [Shape.ofJson] at object
    cases object

/-- Tags that name the same case may stand for each other. -/
theorem Snapshot.Shape.ofJson_extended_retag {σ α β : Type} {record tag : String} {fields : Fields σ α}
    {cases : Cases β} (beside : fields.has tag = false) {json json' : Json}
    (same : tagOfJson .setAside cases.names json = tagOfJson .setAside cases.names json')
    (origin : Origin) (before after : Members) :
    (Shape.extended record fields tag cases).ofJson origin (.object (before ++ (tag, json) :: after)) =
      (Shape.extended record fields tag cases).ofJson origin (.object (before ++ (tag, json') :: after)) := by
  have filled (json : Json) :
      fields.fillAll origin (before ++ (tag, json) :: after) fields.blank =
        fields.fillAll origin (before ++ after) fields.blank := by
    rw [Fields.fillAll, Fields.fillAll, List.foldlM_append, List.foldlM_append]
    congr
    funext slots
    rw [List.foldlM_cons, fields.fill_of_not_has origin json slots beside]
    rfl
  have setAside (json : Json) :
      ((before ++ (tag, json) :: after).filter fun member => !fields.has member.1) =
        (before.filter fun member => !fields.has member.1) ++
          (tag, json) :: after.filter fun member => !fields.has member.1 :=
    filter_insert (fun key => !fields.has key) (by rw [beside]; rfl) json
  have tagged (before after : Members) :
      caseOfMembers .setAside tag cases.names (before ++ (tag, json) :: after) =
        caseOfMembers .setAside tag cases.names (before ++ (tag, json') :: after) := by
    have others (json : Json) : Json.without tag (before ++ (tag, json) :: after) =
        Json.without tag (before ++ after) := by
      simp [Json.without]
    rw [caseOfMembers, caseOfMembers, splitTag_eq, splitTag_eq, others, others, Json.values_append,
      Json.values_append, Json.values_cons, Json.values_cons, if_pos rfl, if_pos rfl]
    cases Json.values tag before with
    | nil => simp [same]
    | cons first rest => simp
  have slots (json : Json) := filled json
  simp only [Fields.fillAll] at slots
  simp only [Shape.ofJson, slots, setAside, tagged]

theorem Component.position_for_name {position : Nat} {category : Category}
    (stands : words[position]? = some category) (origin : Origin) (before after : Members) :
    Component.shape.ofJson origin
        (.object (before ++ ("type", .number (.natural position)) :: after)) =
      Component.shape.ofJson origin
        (.object (before ++ ("type", .string (name category)) :: after)) := by
  have byPosition : tagOfJson .setAside Kind.cases.names (.number (.natural position)) =
      .ok (name category) := by
    rw [Kind.tagOfJson_eq_ok_iff, Category.ofTag, stands]
    rfl
  have byName : tagOfJson .setAside Kind.cases.names (.string (name category)) =
      .ok (name category) := by
    rw [tagOfJson, Kind.cases_names, if_pos (List.mem_map_of_mem (LawfulVocabulary.mem_words category))]
  rw [shape, Shape.ofJson_convert, Shape.ofJson_convert]
  exact congrArg _ (Shape.ofJson_extended_retag rfl (byPosition.trans byName.symm) origin before after)

namespace Request

/-- The value under `component` of an object, or the first item of a list. -/
def Holds (json part : Json) : Prop :=
  (∃ members, json = .object members ∧ Json.values "component" members = [part]) ∨
    ∃ others, json = .array (part :: others)

theorem component_of_ok {origin : Origin} {json : Json} {request : Request}
    (read : Request.shape.ofJson origin json = .ok request) :
    ∃ part, Holds json part ∧ Component.shape.ofJson origin part = .ok request.component := by
  rw [shape, Shape.ofJson_convert] at read
  obtain ⟨values, held, rfl⟩ := map_eq_ok_iff.mp read
  cases json with
  | object members =>
    obtain ⟨component, under, rest⟩ := Option.bind_eq_some_iff.mp (Shape.ofJson_record_eq_ok_iff.mp held)
    obtain ⟨part, only, readPart⟩ := Fields.gatherSlot_none_eq_some_iff.mp under
    obtain ⟨others, -, rfl⟩ := Option.map_eq_some_iff.mp rest
    exact ⟨part, .inl ⟨members, rfl, only⟩, readPart⟩
  | array items =>
    rw [Shape.ofJson_record_items, bind_eq_ok_iff] at held
    obtain ⟨⟨found, left⟩, taken, closed⟩ := held
    obtain ⟨-, -, rfl⟩ := map_eq_ok_iff.mp closed
    cases items with
    | nil => cases taken
    | cons part others =>
      rw [Fields.need, Fields.ofItems] at taken
      split at taken
      · cases taken
      · next component readPart =>
        obtain ⟨behind, -, same⟩ := map_eq_ok_iff.mp taken
        cases same
        exact ⟨part, .inr ⟨others, rfl⟩, readPart⟩
  | null | bool | number | string =>
    simp only [Shape.ofJson] at held
    cases held

/-- Both documents of a request have one `type`, and it shows the text. -/
def ShowsType (request : Request) (options : Options) (text : String) : Prop :=
  ∃ json members xml children,
    request.render .json options = .ok (Sink.bytesOf json) ∧
    Json.parse (String.ofList json) = .ok (.object members) ∧
    (members.map Prod.fst).Nodup ∧ ("type", .string text) ∈ members ∧
    request.render .xml options = .ok (Sink.bytesOf (prologue options ++ xml)) ∧
    Markup.read xml = some (false, .element "extension" children) ∧
    (children.filterMap Node.name?).Nodup ∧ Node.leaf "type" text ∈ children

theorem showsType_category (request : Request) (options : Options) :
    request.ShowsType options (name request.component.category) := by
  let members := Content.present request.view.slots
  have inside : ("type", Content.word request.component.category) ∈ members :=
    List.mem_cons_of_mem _ List.mem_cons_self
  have distinct : (members.map Prod.fst).Nodup := by
    rw [request.content_names]
    exact request.headings_distinct
  refine ⟨_, Content.jsonMembers members, _, request.content.nodes (rootMargin options),
    request.render_eq .json options, request.parse_text_json options, ?_, ?_, ?_,
    Markup.read_eq_some_iff.mpr ⟨request.root_named _, rfl⟩, ?_, Content.element_mem_nodes inside⟩
  · rw [Content.jsonMembers_names]
    exact distinct
  · rw [Content.jsonMembers_eq_map]
    exact List.mem_map_of_mem inside
  · rw [request.render_eq, request.text_xml]
    rfl
  · rw [content, View.content, Content.names_nodes]
    exact distinct

end Request

/-- What selects a category. Whatever is read as a component, by itself, in a request or as one,
is an object with exactly one `type`, which is the name of its category or the position of that
name, and the position does wherever the name does. The documents of the component show the
name of the same category. -/
theorem Component.tag_selects_category (origin : Origin) (json : Json) :
    (∀ component, Component.shape.ofJson origin json = .ok component →
      Category.Tags json component.category) ∧
    (∀ request, Request.shape.ofJson origin json = .ok request →
      ∃ part, Request.Holds json part ∧ Category.Tags part request.component.category) ∧
    (∀ request, Request.ofJson json = .ok request →
      ∃ part, (part = json ∨ Request.Holds json part) ∧
        Category.Tags part request.component.category) ∧
    (∀ position (category : Category), words[position]? = some category → ∀ before after,
      Component.shape.ofJson origin
          (.object (before ++ ("type", .number (.natural position)) :: after)) =
        Component.shape.ofJson origin
          (.object (before ++ ("type", .string (name category)) :: after))) ∧
    ∀ (request : Request) options,
      request.ShowsType options (name request.component.category) := by
  have inRequest {origin : Origin} {json : Json} {request : Request}
      (read : Request.shape.ofJson origin json = .ok request) :
      ∃ part, Request.Holds json part ∧ Category.Tags part request.component.category := by
    obtain ⟨part, holds, readPart⟩ := Request.component_of_ok read
    exact ⟨part, holds, tags_of_ok readPart⟩
  refine ⟨fun _ => tags_of_ok, fun _ => inRequest, ?_, fun _ _ stands => position_for_name stands origin,
    Request.showsType_category⟩
  intro request read
  rw [Request.ofJson, mapError_eq_ok_iff] at read
  split at read
  · obtain ⟨part, holds, tags⟩ := inRequest read
    exact ⟨part, .inr holds, tags⟩
  · obtain ⟨component, readComponent, rfl⟩ := map_eq_ok_iff.mp read
    exact ⟨json, .inl rfl, tags_of_ok readComponent⟩

/-- A component with the name of its category, and with the position. -/
def Component.tagged (tag : Json) : Json := .object [("className", .string "P"), ("type", tag)]

theorem Component.tag_selects_category_first :
    ∃ component, Component.shape.ofJson .parsed (tagged (.string "PROCESSOR")) = .ok component ∧
      Category.Tags (tagged (.string "PROCESSOR")) component.category := by
  refine ⟨{ className := "P", kind := .processor {} }, by cbv, ?_⟩
  exact (tag_selects_category .parsed _).1 _ (by cbv)

/-- A component may be accepted though its one `type` is no text. -/
theorem Component.number_selects_category :
    Component.shape.ofJson .parsed (tagged (.number (.natural 0))) =
        .ok { className := "P", kind := .processor {} } ∧
      ¬ ∃ members text, tagged (.number (.natural 0)) = .object members ∧
        Json.values "type" members = [.string text] := by
  constructor
  · cbv
  · rintro ⟨members, text, same, only⟩
    cases same
    cases only

end ComponentDocs
