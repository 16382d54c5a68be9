import ComponentDocs.Proofs.Document.Lookup
import ComponentDocs.Proofs.Outcomes
import ComponentDocs.Proofs.Snapshot.Gathering
import ComponentDocs.Snapshot.OfText
import ComponentDocs.Snapshot.Shapes
import Mathlib.Data.List.Nodup
import Mathlib.Data.List.Sort

/-! Sets of relationships, whatever is done to them. A set holds the first relationship of each
name of all that were offered to it since it was last replaced, in the order in which the names
first came, and a document shows exactly these. -/
namespace ComponentDocs

open Snapshot (Origin Shape)

/-- Where a relationship is, there is a first one of its name. -/
theorem Relationship.exists_first {relationships : List Relationship} {relationship : Relationship}
    (inside : relationship ∈ relationships) :
    ∃ first ∈ relationships, first.name = relationship.name ∧
      (relationships.find? fun other => other.name == relationship.name) = some first := by
  cases found : relationships.find? fun other => other.name == relationship.name with
  | none => exact absurd (beq_self_eq_true _) (List.find?_eq_none.mp found relationship inside)
  | some first =>
    have same := List.find?_some found
    exact ⟨first, List.mem_of_find?_eq_some found, beq_iff_eq.mp same, rfl⟩

namespace RelationshipSet

/-- Of all relationships that were offered, the first of each name, in the order of the offers.
There is one such list. -/
structure FirstOfEachName (offered entries : List Relationship) : Prop where
  mem_iff : ∀ relationship, relationship ∈ entries ↔
    (offered.find? fun other => other.name == relationship.name) = some relationship
  ordered : entries.Pairwise fun first second => offered.idxOf first < offered.idxOf second

namespace FirstOfEachName

variable {offered entries others : List Relationship}

theorem mem_offered (first : FirstOfEachName offered entries) {relationship : Relationship}
    (inside : relationship ∈ entries) : relationship ∈ offered :=
  List.mem_of_find?_eq_some ((first.mem_iff relationship).mp inside)

theorem nodup (first : FirstOfEachName offered entries) : entries.Nodup :=
  first.ordered.imp fun before same => absurd (same ▸ before) (Nat.lt_irrefl _)

theorem names_nodup (first : FirstOfEachName offered entries) : (entries.map Relationship.name).Nodup := by
  refine (List.nodup_map_iff_inj_on first.nodup).mpr ?_
  intro relationship inside other there same
  have found := (first.mem_iff relationship).mp inside
  rw [same, (first.mem_iff other).mp there] at found
  exact (Option.some.inj found).symm

theorem mem_names_iff (first : FirstOfEachName offered entries) (name : String) :
    name ∈ entries.map Relationship.name ↔ name ∈ offered.map Relationship.name := by
  constructor
  · intro inside
    obtain ⟨relationship, there, rfl⟩ := List.mem_map.mp inside
    exact List.mem_map_of_mem (first.mem_offered there)
  · intro inside
    obtain ⟨relationship, there, rfl⟩ := List.mem_map.mp inside
    obtain ⟨entry, -, same, found⟩ := Relationship.exists_first there
    rw [← same] at found ⊢
    exact List.mem_map_of_mem ((first.mem_iff entry).mpr found)

theorem unique (first : FirstOfEachName offered entries) (second : FirstOfEachName offered others) :
    entries = others := by
  have order : entries.Perm others := by
    rw [List.perm_ext_iff_of_nodup first.nodup second.nodup]
    intro relationship
    rw [first.mem_iff, second.mem_iff]
  refine order.eq_of_pairwise ?_ first.ordered second.ordered
  intro relationship other _ _ before behind
  exact absurd before (Nat.lt_asymm behind)

theorem of_nodup (distinct : (entries.map Relationship.name).Nodup) : FirstOfEachName entries entries := by
  constructor
  · intro relationship
    constructor
    · intro inside
      obtain ⟨entry, there, same, found⟩ := Relationship.exists_first inside
      rw [found, List.inj_on_of_nodup_map distinct there inside same]
    · exact List.mem_of_find?_eq_some
  · rw [List.pairwise_iff_getElem]
    intro index other bound bound' before
    rw [distinct.of_map.idxOf_getElem, distinct.of_map.idxOf_getElem]
    exact before

theorem find?_eq (first : FirstOfEachName offered entries) (name : String) :
    (entries.find? fun other => other.name == name) = offered.find? fun other => other.name == name := by
  cases found : offered.find? fun other => other.name == name with
  | none =>
    rw [List.find?_eq_none] at found ⊢
    intro relationship inside
    exact found relationship (first.mem_offered inside)
  | some relationship =>
    have named := List.find?_some found
    obtain rfl : relationship.name = name := beq_iff_eq.mp named
    rw [← (of_nodup first.names_nodup).mem_iff, first.mem_iff]
    exact found

end FirstOfEachName

variable {offered : List Relationship} {set : RelationshipSet} {relationship : Relationship}

theorem toList_injective {first second : RelationshipSet} (same : first.toList = second.toList) : first = second := by
  cases first
  cases second
  cases same
  rfl

/-- What an insertion answers and does. -/
theorem insert_cases (set : RelationshipSet) (relationship : Relationship) :
    (relationship.name ∉ set.toList.map Relationship.name ∧ (set.insert relationship).1 = true ∧
        (set.insert relationship).2.toList = set.toList ++ [relationship]) ∨
      (relationship.name ∈ set.toList.map Relationship.name ∧ (set.insert relationship).1 = false ∧
        (set.insert relationship).2 = set) := by
  have taken : set.contains relationship.name = true ↔ relationship.name ∈ set.toList.map Relationship.name := by
    simp only [contains, List.any_eq_true, beq_iff_eq, List.mem_map]
  rw [insert]
  split
  · next fresh =>
    refine .inl ⟨fun inside => ?_, rfl, rfl⟩
    rw [taken.mpr inside] at fresh
    cases fresh
  · next known => exact .inr ⟨taken.mp (Bool.not_eq_false _ ▸ known), rfl, rfl⟩

theorem insert_eq_true_iff (set : RelationshipSet) (relationship : Relationship) :
    (set.insert relationship).1 = true ↔ relationship.name ∉ set.toList.map Relationship.name := by
  rcases set.insert_cases relationship with ⟨fresh, answer, -⟩ | ⟨taken, answer, -⟩
  · exact iff_of_true answer fresh
  · exact iff_of_false (answer ▸ Bool.false_ne_true) (not_not_intro taken)

theorem FirstOfEachName.insert (first : FirstOfEachName offered set.toList) (relationship : Relationship) :
    FirstOfEachName (offered ++ [relationship]) (set.insert relationship).2.toList := by
  have earlier {other : Relationship} (inside : other ∈ set.toList) :
      (offered ++ [relationship]).idxOf other = offered.idxOf other :=
    List.idxOf_append_of_mem (first.mem_offered inside)
  have ordered : set.toList.Pairwise fun other another =>
      (offered ++ [relationship]).idxOf other < (offered ++ [relationship]).idxOf another := by
    refine first.ordered.imp_of_mem ?_
    intro other another inside there before
    rwa [earlier inside, earlier there]
  rcases set.insert_cases relationship with ⟨fresh, -, longer⟩ | ⟨taken, -, same⟩
  · rw [longer]
    rw [first.mem_names_iff] at fresh
    have new : relationship ∉ offered := fun inside => fresh (List.mem_map_of_mem inside)
    constructor
    · intro other
      rw [List.find?_append, List.mem_append, List.mem_singleton, first.mem_iff]
      by_cases named : relationship.name = other.name
      · have missed : (offered.find? fun another => another.name == other.name) = none := by
          rw [List.find?_eq_none]
          intro another inside same
          exact fresh (List.mem_map.mpr ⟨another, inside, (beq_iff_eq.mp same).trans named.symm⟩)
        simp [missed, named, eq_comm]
      · have different : other ≠ relationship := fun same => named (congrArg Relationship.name same).symm
        simp [named, different]
    · rw [List.pairwise_append]
      refine ⟨ordered, List.pairwise_singleton _ _, ?_⟩
      intro other inside last single
      obtain rfl := List.mem_singleton.mp single
      rw [earlier inside, List.idxOf_append_of_notMem new]
      exact Nat.lt_add_right _ (List.idxOf_lt_length_of_mem (first.mem_offered inside))
  · rw [same]
    constructor
    · intro other
      rw [List.find?_append, first.mem_iff]
      cases found : offered.find? fun another => another.name == other.name with
      | some entry => rfl
      | none =>
        have named : relationship.name ≠ other.name := by
          intro same
          obtain ⟨entry, inside, named⟩ := List.mem_map.mp ((first.mem_names_iff _).mp taken)
          exact List.find?_eq_none.mp found entry inside (beq_iff_eq.mpr (named.trans same))
        simp [named]
    · exact ordered

theorem FirstOfEachName.insertAll (relationships : List Relationship) (first : FirstOfEachName offered set.toList) :
    FirstOfEachName (offered ++ relationships)
      (relationships.foldl (fun set relationship => (set.insert relationship).2) set).toList := by
  induction relationships generalizing offered set with
  | nil => rwa [List.append_nil]
  | cons relationship relationships ih =>
    rw [List.append_cons]
    exact ih (first.insert relationship)

theorem first_ofList (relationships : List Relationship) :
    FirstOfEachName relationships (ofList relationships).toList :=
  @FirstOfEachName.insertAll [] empty relationships (.of_nodup List.nodup_nil)

/-- What may be done to a set: an insertion, or a replacement by relationships that are given or
read. -/
inductive Operation
  | insert (relationship : Relationship)
  | replace (relationships : List Relationship)
  | ofJson (origin : Origin) (json : Json)
  | ofText (text : String)

namespace Operation

/-- The set afterwards. Reading that fails gives no new set. -/
def perform (set : RelationshipSet) : Operation → RelationshipSet
  | .insert relationship => (set.insert relationship).2
  | .replace relationships => ofList relationships
  | .ofJson origin json => (shape.ofJson origin json).toOption.getD set
  | .ofText text => (shape.parse text).toOption.getD set

/-- All that was offered since the last replacement. -/
def offer (offered : List Relationship) : Operation → List Relationship
  | .insert relationship => offered ++ [relationship]
  | .replace relationships => relationships
  | .ofJson origin json => ((Shape.list Relationship.shape).ofJson origin json).toOption.getD offered
  | .ofText text => ((Shape.list Relationship.shape).parse text).toOption.getD offered

end Operation

theorem parse_convert {α β : Type} (build : α → β) (inner : Shape α) (text : String) :
    (Shape.convert build inner).parse text = (inner.parse text).map build := by
  simp only [Shape.parse, Shape.ofText, bind, Except.bind, pure, Except.pure]
  cases inner.ofText Json.nestingLimit (.ofText text) with
  | error error => rfl
  | ok outcome =>
    simp only
    cases Snapshot.lift (Json.finish outcome.2) <;> rfl

theorem FirstOfEachName.perform (first : FirstOfEachName offered set.toList) (operation : Operation) :
    FirstOfEachName (operation.offer offered) (operation.perform set).toList := by
  cases operation with
  | insert relationship => exact first.insert relationship
  | replace relationships => exact first_ofList relationships
  | ofJson origin json =>
    rw [Operation.offer, Operation.perform, shape, Shape.ofJson_convert, toOption_map]
    cases ((Shape.list Relationship.shape).ofJson origin json).toOption with
    | none => exact first
    | some relationships => exact first_ofList relationships
  | ofText text =>
    rw [Operation.offer, Operation.perform, shape, parse_convert, toOption_map]
    cases ((Shape.list Relationship.shape).parse text).toOption with
    | none => exact first
    | some relationships => exact first_ofList relationships

theorem FirstOfEachName.performAll (operations : List Operation) (first : FirstOfEachName offered set.toList) :
    FirstOfEachName (operations.foldl Operation.offer offered) (operations.foldl Operation.perform set).toList := by
  induction operations generalizing offered set with
  | nil => exact first
  | cons operation operations ih => exact ih (first.perform operation)

end RelationshipSet

def Request.relationships (request : Request) : List Relationship :=
  (request.component.kind.processor?.map fun metadata => metadata.relationships.toList).getD []

/-- The names of the relationships in a JSON document. -/
def Json.relationshipNames (document : Json) : List Json :=
  ((document.under "relationships").flatMap items).flatMap (under "name")

/-- The elements with the names of the relationships in an XML document. -/
def Markup.Node.relationshipNames (root : Markup.Node) : List Markup.Node :=
  ((root.under "relationships").flatMap (under "relationship")).flatMap (under "name")

namespace Request

open Content (listed ofRelationship present)
open Markup (Node)

theorem relationships_nodup (request : Request) : (request.relationships.map Relationship.name).Nodup := by
  rw [relationships]
  cases request.component.kind.processor? with
  | none => exact List.nodup_nil
  | some metadata => exact metadata.relationships.distinct

theorem values_relationships (request : Request) :
    Json.values "relationships" (present request.view.slots) =
      (listed "relationship" ofRelationship request.relationships).toList := by
  refine Content.values_present request.view.slots_names_nodup ?_
  have place : ("relationships", listed "relationship" ofRelationship request.relationships) ∈
      View.processorSlots request.view.processor := by
    rw [relationships, view_processor]
    cases request.component.kind.processor? <;> exact List.mem_cons_self
  rw [View.slots, List.append_assoc, List.append_assoc]
  exact List.mem_append_right _ (List.mem_append_left _ place)

theorem relationshipNames_json (request : Request) :
    request.content.json.relationshipNames = request.relationships.map fun relationship => .string relationship.name := by
  rw [Json.relationshipNames, content, View.content, Content.under_json, values_relationships]
  cases request.relationships with
  | nil => rfl
  | cons first others =>
    simp only [listed, Option.toList_some, List.map_singleton, List.flatMap_singleton, Content.items_json,
      List.map_map, List.flatMap_map]
    exact List.flatMap_pure_eq_map _ _

theorem relationshipNames_xml (request : Request) (options : Options) :
    (request.content.element (rootMargin options) "extension").relationshipNames =
      request.relationships.map fun relationship => Node.leaf "name" relationship.name := by
  rw [Node.relationshipNames, content, View.content, Content.under_element, values_relationships]
  cases request.relationships with
  | nil => rfl
  | cons first others =>
    simp only [listed, Option.toList_some, List.map_singleton, List.flatMap_singleton]
    rw [Content.under_element_list _ _ _ (mt List.map_eq_nil_iff.mp (List.cons_ne_nil _ _))]
    simp only [List.map_map, List.flatMap_map, Function.comp_apply, ofRelationship, Content.under_element]
    exact List.flatMap_pure_eq_map _ _

end Request

/-- Whatever is done to a set, it holds the first relationship of each name of all that were
offered since it was last replaced, in the order in which the names first came; insertions,
look-ups and listings answer accordingly. The relationships of a component are such a set, and
both documents show their names, each once. -/
theorem RelationshipSet.operations_keep_first (start : RelationshipSet) (operations : List Operation) :
    let set := operations.foldl Operation.perform start
    let offered := operations.foldl Operation.offer start.toList
    (set.toList.map Relationship.name).Nodup ∧ FirstOfEachName offered set.toList ∧
      (∀ relationship, (set.insert relationship).1 = true ↔
        relationship.name ∉ set.toList.map Relationship.name) ∧
      (∀ relationship, (set.insert relationship).1 = false → (set.insert relationship).2 = set) ∧
      (∀ name, set.get? name = offered.find? fun relationship => relationship.name == name) ∧
      (∀ name, set.get? name = none ↔ name ∉ set.toList.map Relationship.name) ∧
      set.size = set.toList.length ∧ (set.isEmpty ↔ set.toList = []) ∧ ofList set.toList = set ∧
      ∀ (request : Request) options, ∃ json document xml root,
        request.render .json options = .ok (Sink.bytesOf json) ∧
        Json.parse (String.ofList json) = .ok document ∧
        request.render .xml options = .ok (Sink.bytesOf (Request.prologue options ++ xml)) ∧
        Markup.read xml = some (false, root) ∧
        document.relationshipNames = request.relationships.map (fun relationship => .string relationship.name) ∧
        root.relationshipNames =
          request.relationships.map (fun relationship => Markup.Node.leaf "name" relationship.name) ∧
        (request.relationships.map Relationship.name).Nodup := by
  intro set offered
  have first : FirstOfEachName offered set.toList :=
    .performAll operations (.of_nodup start.distinct)
  refine ⟨set.distinct, first, set.insert_eq_true_iff, ?_, first.find?_eq, ?_, rfl, List.isEmpty_iff, ?_, ?_⟩
  · intro relationship refused
    rcases set.insert_cases relationship with ⟨-, answer, -⟩ | ⟨-, -, same⟩
    · rw [answer] at refused
      cases refused
    · exact same
  · intro name
    simp only [get?, List.find?_eq_none, beq_iff_eq, List.mem_map, not_exists, not_and]
  · exact toList_injective ((first_ofList set.toList).unique (.of_nodup set.distinct))
  · intro request options
    obtain ⟨json, xml, rendered, parsed, written, read⟩ := request.documents_read options
    exact ⟨json, _, xml, _, rendered, parsed, written, read, request.relationshipNames_json,
      request.relationshipNames_xml options, request.relationships_nodup⟩

end ComponentDocs
