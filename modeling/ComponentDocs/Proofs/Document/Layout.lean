import ComponentDocs.Proofs.Document.Text
import ComponentDocs.Proofs.Markup.Blanks

/-! Documents in XML as trees. The compact document is the printed tree of its content;
indentation adds characters before the tags of elements that hold elements, and nothing
else. -/
namespace ComponentDocs

open Markup (Margin Node Pen blanks inner behindTag)

namespace Content

mutual

/-- What the element of some content holds. Where these are elements, each stands at the
margin further in, and the end tag at the margin. Without a margin this is compact. -/
def nodes (margin : Option Margin) : Content → List Node
  | .text value => Node.ofText value
  | .missing => Node.ofText ""
  | .flag value => Node.ofText (if value then "true" else "false")
  | .count value => Node.ofText (String.ofList (Nat.toDigits 10 value))
  | .record members => memberNodes (inner margin) members ++ blanks margin
  | .list _ [] => Node.ofText ""
  | .list item (first :: items) => itemNodes (inner margin) item (first :: items) ++ blanks margin

def memberNodes (margin : Option Margin) : List (String × Content) → List Node
  | [] => []
  | (name, content) :: members =>
    blanks margin ++ .element name (content.nodes margin) :: memberNodes margin members

def itemNodes (margin : Option Margin) (item : String) : List Content → List Node
  | [] => []
  | content :: items =>
    blanks margin ++ .element item (content.nodes margin) :: itemNodes margin item items

end

def element (margin : Option Margin) (name : String) (content : Content) : Node :=
  .element name (content.nodes margin)

/-- A leaf is printed at the margin of its start tag, with its text and its end tag on the
same line. -/
theorem print_leaf (name value : String) (rest : List Markup.Event) (margin : Option Margin)
    (unclosed : List String) :
    Pen.print (Markup.leaf name value ++ rest) ⟨margin, unclosed⟩ =
      Markup.leadOf margin ++ ((Node.leaf name value).print ++
        Pen.print rest ⟨behindTag margin, unclosed⟩) := by
  have closing : Markup.leadOf
      (((margin.map fun margin => margin.deeper.afterTag).map .afterText).map .shallower) = [] := by
    cases margin <;> rfl
  have behind : (((margin.map fun margin => margin.deeper.afterTag).map .afterText).map
      .shallower).map .afterTag = behindTag margin := by
    cases margin with
    | none => rfl
    | some margin =>
      simp only [behindTag, Option.map_some, Margin.deeper, Margin.afterTag, Margin.afterText,
        Margin.shallower, Nat.add_sub_cancel]
  simp only [Markup.leaf, List.cons_append, List.nil_append, Pen.print_cons, Pen.offers, Pen.after,
    Pen.move, Pen.lead, closing, behind, List.flatten_cons, List.flatten_nil, List.append_nil,
    Node.leaf, Node.print, Node.printAll_ofText, List.append_assoc]

theorem print_around {name : String} {events : List Markup.Event} {nodes : List Node}
    {margin : Option Margin}
    (held : ∀ rest unclosed, Pen.print (events ++ rest) ⟨inner (behindTag margin), unclosed⟩ =
      Node.printAll nodes ++ Pen.print rest ⟨inner (behindTag margin), unclosed⟩)
    (rest : List Markup.Event) (unclosed : List String) :
    Pen.print (.start name :: (events ++ [.finish]) ++ rest) ⟨margin, unclosed⟩ =
      Markup.leadOf margin ++ ((Node.element name (nodes ++ blanks (behindTag margin))).print ++
        Pen.print rest ⟨behindTag margin, unclosed⟩) := by
  have opened : (margin.map fun margin => margin.deeper.afterTag) = inner (behindTag margin) := by
    cases margin <;> rfl
  simp only [List.cons_append, List.append_assoc, List.nil_append, Pen.print_cons, Pen.offers,
    Pen.after, Pen.move, Pen.lead, opened, held, Markup.shallower_inner, List.flatten_cons,
    List.flatten_nil, List.append_nil, Node.print, Node.printAll_append, Markup.printAll_blanks]
  rw [show (behindTag margin).map .afterTag = behindTag margin from Markup.behindTag_behindTag margin]

mutual

/-- The events of an element print its tree, at the margin of its start tag. -/
theorem print_events (content : Content) (name : String) (rest : List Markup.Event)
    (margin : Option Margin) (unclosed : List String) :
    Pen.print (content.events name ++ rest) ⟨margin, unclosed⟩ =
      Markup.leadOf margin ++ ((content.element (behindTag margin) name).print ++
        Pen.print rest ⟨behindTag margin, unclosed⟩) := by
  cases content with
  | text | missing | flag | count => exact print_leaf _ _ rest margin unclosed
  | record members =>
    refine print_around (fun rest unclosed => ?_) rest unclosed
    exact print_memberEvents members rest _ (Markup.behindTag_inner_behindTag margin) unclosed
  | list item items =>
    cases items with
    | nil => exact print_leaf _ _ rest margin unclosed
    | cons first items =>
      refine print_around (fun rest unclosed => ?_) rest unclosed
      exact print_itemEvents item (first :: items) rest _ (Markup.behindTag_inner_behindTag margin)
        unclosed

theorem print_memberEvents (members : List (String × Content)) (rest : List Markup.Event)
    (margin : Option Margin) (settled : behindTag margin = margin) (unclosed : List String) :
    Pen.print (memberEvents members ++ rest) ⟨margin, unclosed⟩ =
      Node.printAll (memberNodes margin members) ++ Pen.print rest ⟨margin, unclosed⟩ := by
  cases members with
  | nil => rfl
  | cons member members =>
    obtain ⟨name, content⟩ := member
    rw [memberEvents, List.append_assoc, print_events content name, settled,
      print_memberEvents members rest margin settled unclosed]
    simp only [memberNodes, element, Node.printAll_append, Node.printAll, Markup.printAll_blanks,
      List.append_assoc]

theorem print_itemEvents (item : String) (items : List Content) (rest : List Markup.Event)
    (margin : Option Margin) (settled : behindTag margin = margin) (unclosed : List String) :
    Pen.print (itemEvents item items ++ rest) ⟨margin, unclosed⟩ =
      Node.printAll (itemNodes margin item items) ++ Pen.print rest ⟨margin, unclosed⟩ := by
  cases items with
  | nil => rfl
  | cons content items =>
    rw [itemEvents, List.append_assoc, print_events content item, settled,
      print_itemEvents item items rest margin settled unclosed]
    simp only [itemNodes, element, Node.printAll_append, Node.printAll, Markup.printAll_blanks,
      List.append_assoc]

end

theorem memberNodes_eq (margin : Option Margin) (members : List (String × Content)) :
    memberNodes margin members =
      Markup.spaced margin (members.map fun member => member.2.element margin member.1) := by
  induction members with
  | nil => rfl
  | cons member members ih =>
    simp only [memberNodes, ih, List.map_cons, Markup.spaced, List.flatMap_cons, List.append_assoc,
      List.singleton_append, element]

theorem itemNodes_eq (margin : Option Margin) (item : String) (items : List Content) :
    itemNodes margin item items =
      Markup.spaced margin (items.map (element margin item)) := by
  induction items with
  | nil => rfl
  | cons content items ih =>
    simp only [itemNodes, ih, List.map_cons, Markup.spaced, List.flatMap_cons, List.append_assoc,
      List.singleton_append, element]

theorem nodes_record (members : List (String × Content)) :
    nodes none (.record members) = members.map fun member => member.2.element none member.1 := by
  rw [nodes, memberNodes_eq, show inner none = none from rfl, Markup.spaced_none]
  exact List.append_nil _

theorem nodes_list (item : String) (items : List Content) :
    nodes none (.list item items) = items.map (element none item) := by
  cases items with
  | nil => rfl
  | cons first items =>
    rw [nodes, itemNodes_eq, show inner none = none from rfl, Markup.spaced_none]
    exact List.append_nil _

end Content

namespace Request

def prologue (options : Options) : List Char :=
  if options.xmlDeclaration then
    Markup.declarationTag ++ (if options.indent.isSome then ['\n'] else [])
  else []

def rootMargin (options : Options) : Option Margin :=
  options.indent.map fun width => { width, breakLine := true }

theorem text_xml (request : Request) (options : Options) :
    request.text .xml options =
      prologue options ++ (request.content.element (rootMargin options) "extension").print := by
  obtain ⟨indent, declares⟩ := options
  have printed (margin : Option Margin) := Content.print_events request.content "extension" [] margin []
  simp only [List.append_nil] at printed
  have nothing (pen : Pen) : pen.print [] = [] := rfl
  cases declares with
  | false =>
    have lead : Markup.leadOf (indent.map fun width => { width }) = [] := by cases indent <;> rfl
    have margin : behindTag (indent.map fun width => { width }) = rootMargin ⟨indent, false⟩ := by
      cases indent <;> rfl
    have whole := printed (indent.map fun width => { width })
    rw [lead, margin, nothing, List.append_nil] at whole
    exact whole
  | true =>
    have lead : Markup.leadOf (behindTag (indent.map fun width => { width })) =
        if indent.isSome then ['\n'] else [] := by cases indent <;> rfl
    have margin : behindTag (behindTag (indent.map fun width => { width })) =
        rootMargin ⟨indent, true⟩ := by cases indent <;> rfl
    have first : Markup.leadOf (indent.map fun width => { width }) = [] := by cases indent <;> rfl
    have whole := printed (behindTag (indent.map fun width => { width }))
    rw [lead, margin, nothing, List.append_nil] at whole
    have declared : request.text .xml ⟨indent, true⟩ = Markup.declarationTag ++
        Pen.print (request.content.events "extension")
          ⟨behindTag (indent.map fun width => { width }), []⟩ := by
      rw [text, offers, markup, if_pos rfl]
      exact (Pen.print_cons .declaration _ _).trans (by
        simp only [Pen.offers, Pen.lead, first, List.nil_append, List.flatten_singleton]
        rfl)
    rw [declared, whole, prologue, if_pos rfl, List.append_assoc]

theorem text_xml_compact (request : Request) (declares : Bool) :
    request.text .xml { xmlDeclaration := declares } =
      Markup.printDocument declares (request.content.element none "extension") := by
  rw [text_xml, prologue, Markup.printDocument]
  simp only [rootMargin, Option.map_none, Option.isSome_none, Bool.false_eq_true, if_false,
    List.append_nil]

end Request

end ComponentDocs
