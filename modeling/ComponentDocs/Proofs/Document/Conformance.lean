import ComponentDocs.Proofs.Document.Parity
import ComponentDocs.Proofs.Markup.WellFormed

/-! Compact XML documents read back: what elements they have, what their texts are, and when
they are well-formed. The strings of a snapshot only ever become characters. -/
namespace ComponentDocs

open Markup (Node)

namespace Markup.Node

mutual

/-- The elements of a tree without any characters. -/
def outline : Node → List Node
  | .character _ => []
  | .element name content => [.element name (outlineAll content)]

def outlineAll : List Node → List Node
  | [] => []
  | node :: nodes => node.outline ++ outlineAll nodes

end

theorem outlineAll_ofText (text : String) : outlineAll (ofText text) = [] := by
  rw [ofText]
  induction text.toList with
  | nil => rfl
  | cons c rest ih => simpa only [List.map_cons, outlineAll, outline, List.nil_append] using ih

mutual

theorem named_outline (node : Node) : AllNamed node.outline ↔ node.Named := by
  cases node with
  | character => exact Iff.rfl
  | element name content => simp only [outline, AllNamed, Named, and_true, allNamed_outlineAll content]

theorem allNamed_outlineAll (nodes : List Node) : AllNamed (outlineAll nodes) ↔ AllNamed nodes := by
  cases nodes with
  | nil => exact Iff.rfl
  | cons node nodes =>
    simp only [outlineAll, allNamed_append, AllNamed, named_outline node, allNamed_outlineAll nodes]

end

theorem charactersAll_ofText (text : String) : charactersAll (ofText text) = text.toList := by
  rw [ofText]
  induction text.toList with
  | nil => rfl
  | cons c rest ih => simp only [List.map_cons, charactersAll, characters, ih, List.singleton_append]

end Markup.Node

namespace Content

mutual

def replace (change : String → String) : Content → Content
  | .text value => .text (change value)
  | .missing => .missing
  | .flag value => .flag value
  | .count value => .count value
  | .record members => .record (replaceMembers change members)
  | .list item items => .list item (replaceItems change items)

def replaceMembers (change : String → String) : List (String × Content) → List (String × Content)
  | [] => []
  | (name, content) :: members => (name, content.replace change) :: replaceMembers change members

def replaceItems (change : String → String) : List Content → List Content
  | [] => []
  | content :: items => content.replace change :: replaceItems change items

end

mutual

def strings : Content → List String
  | .text value => [value]
  | .missing | .flag _ | .count _ => []
  | .record members => memberStrings members
  | .list _ items => itemStrings items

def memberStrings : List (String × Content) → List String
  | [] => []
  | (_, content) :: members => content.strings ++ memberStrings members

def itemStrings : List Content → List String
  | [] => []
  | content :: items => content.strings ++ itemStrings items

end

mutual

theorem outlineAll_replace (change : String → String) (content : Content) :
    Node.outlineAll ((content.replace change).nodes none) = Node.outlineAll (content.nodes none) := by
  cases content with
  | text => simp only [replace, nodes, Node.outlineAll_ofText]
  | missing | flag | count => rfl
  | record members =>
    simp only [replace, nodes_record]
    exact outlineAll_replaceMembers change members
  | list item items =>
    simp only [replace, nodes_list]
    exact outlineAll_replaceItems change item items

theorem outlineAll_replaceMembers (change : String → String) (members : List (String × Content)) :
    Node.outlineAll ((replaceMembers change members).map fun member =>
      member.2.element none member.1) =
      Node.outlineAll (members.map fun member => member.2.element none member.1) := by
  cases members with
  | nil => rfl
  | cons member members =>
    obtain ⟨name, content⟩ := member
    simp only [replaceMembers, List.map_cons, Node.outlineAll, element, Node.outline,
      outlineAll_replace change content]
    exact congrArg _ (outlineAll_replaceMembers change members)

theorem outlineAll_replaceItems (change : String → String) (item : String) (items : List Content) :
    Node.outlineAll ((replaceItems change items).map (element none item)) =
      Node.outlineAll (items.map (element none item)) := by
  cases items with
  | nil => rfl
  | cons content items =>
    simp only [replaceItems, List.map_cons, Node.outlineAll, element, Node.outline,
      outlineAll_replace change content]
    exact congrArg _ (outlineAll_replaceItems change item items)

end

mutual

/-- XML allows all characters of an element exactly when it allows those of its strings. -/
theorem legal_nodes (content : Content) :
    Xml.Legal (Node.charactersAll (content.nodes none)) ↔
      ∀ text ∈ content.strings, Xml.Legal text.toList := by
  cases content with
  | text => simp only [nodes, Node.charactersAll_ofText, strings, List.forall_mem_singleton]
  | missing =>
    simp only [nodes, Node.charactersAll_ofText, strings, List.not_mem_nil, false_implies,
      implies_true, iff_true]
    exact Xml.legal_nil
  | flag value =>
    simp only [nodes, Node.charactersAll_ofText, strings, List.not_mem_nil, false_implies,
      implies_true, iff_true]
    cases value <;> decide
  | count value =>
    simp only [nodes, Node.charactersAll_ofText, strings, List.not_mem_nil, false_implies,
      implies_true, iff_true, String.toList_ofList]
    exact Xml.legal_toDigits value
  | record members =>
    simp only [nodes_record, strings]
    exact legal_members members
  | list item items =>
    simp only [nodes_list, strings]
    exact legal_items item items

theorem legal_members (members : List (String × Content)) :
    Xml.Legal (Node.charactersAll (members.map fun member => member.2.element none member.1)) ↔
      ∀ text ∈ memberStrings members, Xml.Legal text.toList := by
  cases members with
  | nil => simp [Node.charactersAll, memberStrings, Xml.legal_nil]
  | cons member members =>
    simp only [List.map_cons, Node.charactersAll, element, Node.characters, Xml.legal_append,
      memberStrings, List.forall_mem_append, legal_nodes member.2]
    exact and_congr_right fun _ => legal_members members

theorem legal_items (item : String) (items : List Content) :
    Xml.Legal (Node.charactersAll (items.map (element none item))) ↔
      ∀ text ∈ itemStrings items, Xml.Legal text.toList := by
  cases items with
  | nil => simp [Node.charactersAll, itemStrings, Xml.legal_nil]
  | cons content items =>
    simp only [List.map_cons, Node.charactersAll, element, Node.characters, Xml.legal_append,
      itemStrings, List.forall_mem_append, legal_nodes content]
    exact and_congr_right fun _ => legal_items item items

end

/-- Content with other strings is still read as the same elements. -/
theorem read_replace {name : String} (named : Markup.isName name.toList) {content : Content}
    (inside : Node.AllNamed (content.nodes none)) (change : String → String) (declares : Bool) :
    ∃ tree, Markup.read (Markup.printDocument declares ((content.replace change).element none name)) =
        some (declares, tree) ∧
      tree.outline = (content.element none name).outline := by
  have same := outlineAll_replace change content
  have replaced : Node.AllNamed ((content.replace change).nodes none) := by
    rw [← Node.allNamed_outlineAll, same, Node.allNamed_outlineAll]
    exact inside
  refine ⟨(content.replace change).element none name,
    Markup.read_eq_some_iff.mpr ⟨⟨rfl, named, replaced⟩, rfl⟩, ?_⟩
  simp only [element, Node.outline, same]

end Content

/-- For every request, with the declaration and without: a strict reader finds one element
`extension` in the compact XML document, with the declaration before it and nothing else.
The element holds what the request shows, as that is told from the snapshot, character for
character, and has the form that the grammar prescribes for the category. Other strings in it would not change its elements,
and the document is well-formed exactly when XML allows the characters of its strings. -/
theorem Request.xml_conforms (request : Request) (declares : Bool) :
    ∃ xml, request.render .xml { xmlDeclaration := declares } = .ok (Sink.bytesOf xml) ∧
      Markup.read xml = some (declares, request.content.element none "extension") ∧
      (Rule.extension request.component.category).Allows (request.content.nodes none) ∧
      (∀ change, ∃ tree, Markup.read (Markup.printDocument declares
          ((request.content.replace change).element none "extension")) = some (declares, tree) ∧
        tree.outline = (request.content.element none "extension").outline) ∧
      (Xml.Document xml ↔ ∀ text ∈ request.content.strings, Xml.Legal text.toList) := by
  obtain ⟨element, root, named⟩ := request.root_named none
  refine ⟨_, request.render_eq .xml _, request.read_text_xml declares,
    Rule.allows_of_admits _ (Rule.admits_content request),
    fun change => Content.read_replace root named change declares, ?_⟩
  rw [request.text_xml_compact, Markup.document_iff _ element ⟨root, named⟩ declares]
  exact Content.legal_nodes request.content

end ComponentDocs
