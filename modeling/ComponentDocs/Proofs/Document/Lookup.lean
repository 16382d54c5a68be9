import ComponentDocs.Proofs.Document.Headings
import ComponentDocs.Proofs.Json.Members

/-! Looking things up in a document that has been read: the members under a key of an object,
and the elements of a name inside an element. A document has under a name what stands in the
place of that name, in either format and with any margin. -/
namespace ComponentDocs

open Markup (Margin Node blanks inner spaced)

namespace Json

def under (key : String) : Json → List Json
  | .object members => values key members
  | _ => []

def items : Json → List Json
  | .array items => items
  | _ => []

end Json

namespace Markup.Node

def under (name : String) : Node → List Node
  | .character _ => []
  | .element _ content => content.filter fun node => node.name? = some name

/-- The elements directly inside an element, whatever their names are. -/
def elements : Node → List Node
  | .character _ => []
  | .element _ content => content.filter fun node => node.name?.isSome

section Blanks

variable {keeps : Node → Bool} (skips : ∀ c, keeps (.character c) = false)

include skips

theorem filter_blanks (margin : Option Margin) : (blanks margin).filter keeps = [] := by
  rw [List.filter_eq_nil_iff]
  intro node inside
  obtain ⟨c, -, rfl⟩ := List.mem_map.mp inside
  rw [skips c]
  exact Bool.false_ne_true

theorem filter_spaced (margin : Option Margin) (nodes : List Node) :
    (spaced margin nodes).filter keeps = nodes.filter keeps := by
  induction nodes with
  | nil => rfl
  | cons node nodes ih =>
    rw [spaced] at ih ⊢
    rw [List.flatMap_cons, List.filter_append, List.filter_append, filter_blanks skips, ih,
      List.nil_append, ← List.filter_append, List.singleton_append]

end Blanks

theorem filter_name?_blanks (margin : Option Margin) (name : String) :
    ((blanks margin).filter fun node => node.name? = some name) = [] :=
  filter_blanks (fun _ => rfl) margin

theorem filter_name?_spaced (margin : Option Margin) (name : String) (nodes : List Node) :
    ((spaced margin nodes).filter fun node => node.name? = some name) =
      nodes.filter fun node => node.name? = some name :=
  filter_spaced (fun _ => rfl) margin nodes

end Markup.Node

namespace Content

theorem values_present {slots : Slots} (distinct : (slots.map Prod.fst).Nodup) {name : String}
    {content? : Option Content} (inside : (name, content?) ∈ slots) :
    Json.values name (present slots) = content?.toList := by
  induction slots with
  | nil => cases inside
  | cons slot slots ih =>
    obtain ⟨first, content⟩ := slot
    rw [List.map_cons, List.nodup_cons] at distinct
    rcases List.mem_cons.mp inside with here | behind
    · cases here
      have alone : Json.values name (present slots) = [] := by
        rw [Json.values_eq_nil_iff]
        exact fun there => distinct.1 ((present_names_sublist slots).mem there)
      cases content? with
      | none => exact alone
      | some content =>
        rw [present, Json.values_cons, if_pos rfl, alone]
        rfl
    · have other : first ≠ name := by
        rintro rfl
        exact distinct.1 (List.mem_map.mpr ⟨_, behind, rfl⟩)
      cases content with
      | none => exact ih distinct.2 behind
      | some content =>
        rw [present, Json.values_cons, if_neg other]
        exact ih distinct.2 behind

theorem under_json (key : String) (members : List (String × Content)) :
    (Content.record members).json.under key = (Json.values key members).map json := by
  rw [json, Json.under, jsonMembers_eq_map, Json.values_map]

theorem items_json (item : String) (contents : List Content) :
    (Content.list item contents).json.items = contents.map json := by
  rw [json, Json.items, jsonItems_eq_map]

theorem under_element (margin : Option Margin) (name key : String) (members : List (String × Content)) :
    ((Content.record members).element margin name).under key =
      (Json.values key members).map (element (inner margin) key) := by
  rw [element, Node.under, nodes, memberNodes_eq, List.filter_append, Node.filter_name?_spaced,
    Node.filter_name?_blanks, List.append_nil]
  induction members with
  | nil => rfl
  | cons member members ih =>
    rw [List.map_cons, Json.values_cons]
    by_cases same : member.1 = key
    · rw [if_pos same, List.filter_cons_of_pos (by simp [element, Node.name?, same]), ih, List.map_cons, same]
    · rw [if_neg same, List.filter_cons_of_neg (by simp [element, Node.name?, same]), ih]

theorem under_element_list (margin : Option Margin) (name item : String) {contents : List Content}
    (inhabited : contents ≠ []) :
    ((Content.list item contents).element margin name).under item =
      contents.map (element (inner margin) item) := by
  obtain ⟨first, others, rfl⟩ := List.exists_cons_of_ne_nil inhabited
  rw [element, Node.under, nodes, itemNodes_eq, List.filter_append, Node.filter_name?_spaced,
    Node.filter_name?_blanks, List.append_nil, List.filter_eq_self]
  intro node inside
  obtain ⟨content, -, rfl⟩ := List.mem_map.mp inside
  exact decide_eq_true rfl

/-- The elements of a list are its items, also if there are none. -/
theorem elements_list (margin : Option Margin) (name item : String) (contents : List Content) :
    ((Content.list item contents).element margin name).elements =
      contents.map (element (inner margin) item) := by
  cases contents with
  | nil => rfl
  | cons first others =>
    rw [element, Node.elements, nodes, itemNodes_eq, List.filter_append,
      Node.filter_spaced (fun _ => rfl) _ _, Node.filter_blanks (fun _ => rfl) _, List.append_nil,
      List.filter_eq_self]
    intro node inside
    obtain ⟨content, -, rfl⟩ := List.mem_map.mp inside
    rfl

end Content

namespace Request

/-- Both documents of a request, read again: the value of the one and the root element of the
other. The declaration, if there is one, stands before the root. -/
theorem documents_read (request : Request) (options : Options) :
    ∃ json xml,
      request.render .json options = .ok (Sink.bytesOf json) ∧
      Json.parse (String.ofList json) = .ok request.content.json ∧
      request.render .xml options = .ok (Sink.bytesOf (prologue options ++ xml)) ∧
      Markup.read xml = some (false, request.content.element (rootMargin options) "extension") := by
  refine ⟨_, (request.content.element (rootMargin options) "extension").print,
    request.render_eq .json options, request.parse_text_json options, ?_, ?_⟩
  · rw [request.render_eq .xml options, request.text_xml options]
  · exact Markup.read_eq_some_iff.mpr ⟨request.root_named _, rfl⟩

end Request

end ComponentDocs
