import ComponentDocs.Proofs.Document.Parity
import ComponentDocs.Proofs.Markup.Indentation

/-! What the indentation of a document changes: line breaks before tags in XML, blanks between
tokens in JSON, and no text. -/
namespace ComponentDocs

open Markup (Item Node)

namespace Request

def items (request : Request) (declares : Bool) : List Item :=
  Markup.items (request.sections.flatMap (Markup.DocumentWriter.eventsOf declares)) []

theorem text_xml_items (request : Request) (declares : Bool) :
    request.text .xml { xmlDeclaration := declares } = (request.items declares).flatMap Item.print := by
  rw [items, flatMap_markup]
  exact Markup.Pen.print_compact _ []

theorem text_xml_indented (request : Request) (declares : Bool) (width : Nat) :
    request.text .xml { indent := some width, xmlDeclaration := declares } =
      Item.indented width none (request.items declares) := by
  rw [items, flatMap_markup]
  exact Markup.Pen.print_behind width _ none []

theorem text_xml_closing (request : Request) (declares : Bool) (width : Nat) :
    ∃ front, request.text .xml { indent := some width, xmlDeclaration := declares } =
      front ++ '\n' :: Markup.endTag "extension" := by
  let options : Options := { indent := some width, xmlDeclaration := declares }
  let members := Content.memberNodes (Markup.inner (rootMargin options))
    (Content.present request.view.slots)
  have newline : Markup.leadOf (rootMargin options) = ['\n'] := rfl
  have nodes : request.content.nodes (rootMargin options) =
      members ++ Markup.blanks (rootMargin options) := by
    rw [content, View.content, Content.nodes]
  refine ⟨prologue options ++ (Markup.startTag "extension" ++ Node.printAll members), ?_⟩
  rw [text_xml, Content.element, Node.print, nodes, Node.printAll_append, Markup.printAll_blanks,
    newline]
  simp only [List.append_assoc, List.singleton_append]
  rfl

/-- The element of the indented document, without its blanks, is that of the compact one. -/
theorem trim_root (request : Request) (margin : Option Markup.Margin) :
    (request.content.element margin "extension").trim = request.content.element none "extension" :=
  congrArg (Node.element "extension") (Content.trimAll_nodes request.content_proper margin)

end Request

theorem Json.print_object (members : Members) (layout : Layout) (level : Nat) :
    ∃ inside, (Json.object members).print layout level = '{' :: (inside ++ ['}']) := by
  cases members with
  | nil => exact ⟨[], rfl⟩
  | cons member members => exact ⟨_, rfl⟩

namespace Request

def members (request : Request) : Json.Members :=
  Content.jsonMembers (Content.present request.view.slots)

theorem content_json (request : Request) : request.content.json = .object request.members := by
  rw [content, View.content, Content.json, members]

theorem text_json_closing (request : Request) (options : Options) :
    ∃ inside, request.text .json options = '{' :: (inside ++ ['}', '\n']) := by
  obtain ⟨inside, printed⟩ := Json.print_object request.members options.indent 0
  refine ⟨inside, ?_⟩
  rw [text, offers, content_json, printed, List.flatten_cons, List.flatten_singleton,
    List.cons_append, List.append_assoc, List.singleton_append]

/-- Indented XML is compact XML with a line feed and `width` blanks per open element before
every tag that is neither the first item nor directly behind a text. Its root element is read
back, has the leaves of the compact one, and is the compact one when the blanks between
elements go; its last tag begins a line. The JSON of all layouts is read as one object, which
a line feed follows. -/
theorem indentation_is_blank (request : Request) (declares : Bool) (width : Nat) :
    request.render .xml { xmlDeclaration := declares } =
        .ok (Sink.bytesOf ((request.items declares).flatMap Item.print)) ∧
      request.render .xml { indent := some width, xmlDeclaration := declares } =
        .ok (Sink.bytesOf (Item.indented width none (request.items declares))) ∧
      (∃ flat tree front,
        Markup.read ((request.items declares).flatMap Item.print) = some (declares, flat) ∧
        Item.indented width none (request.items declares) =
          (if declares then Markup.declarationTag ++ ['\n'] else []) ++ tree.print ∧
        Markup.read tree.print = some (false, tree) ∧
        tree.trim = flat ∧ tree.leaves = flat.leaves ∧
        Item.indented width none (request.items declares) =
          front ++ '\n' :: Markup.endTag "extension") ∧
      ∃ members, ∀ indent, ∃ inside,
        request.render .json { indent, xmlDeclaration := declares } =
          .ok (Sink.bytesOf ('{' :: (inside ++ ['}', '\n']))) ∧
        Json.parse (String.ofList ('{' :: (inside ++ ['}', '\n']))) = .ok (.object members) := by
  refine ⟨?_, ?_, ?_, ?_⟩
  · rw [render_eq, text_xml_items]
  · rw [render_eq, text_xml_indented]
  · let options : Options := { indent := some width, xmlDeclaration := declares }
    let tree := request.content.element (rootMargin options) "extension"
    obtain ⟨front, closing⟩ := request.text_xml_closing declares width
    have trimmed : tree.trim = _ := request.trim_root (rootMargin options)
    rw [← text_xml_items, ← text_xml_indented]
    refine ⟨_, tree, front, request.read_text_xml declares, request.text_xml options, ?_, trimmed, ?_,
      closing⟩
    · exact Markup.read_eq_some_iff.mpr ⟨request.root_named _, rfl⟩
    · rw [← trimmed, Node.leaves_trim]
  · refine ⟨request.members, fun indent => ?_⟩
    obtain ⟨inside, text⟩ := request.text_json_closing { indent, xmlDeclaration := declares }
    refine ⟨inside, ?_, ?_⟩
    · rw [render_eq, text]
    · rw [← text, parse_text_json, content_json]

end Request

end ComponentDocs
