import ComponentDocs.Proofs.Markup.Blanks

/-! Indentation without a margin to keep: a row of events as tags and texts, each tag with
the number of elements around it, and the line breaks as a function of two neighbours. -/
namespace ComponentDocs.Markup

/-- What an event writes: a tag, with the number of elements open around it, or a text. -/
inductive Item
  | tag (around : Nat) (text : List Char)
  | text (value : String)

namespace Item

def print : Item → List Char
  | .tag _ written => written
  | .text value => escape value

/-- What comes between two neighbours: before a tag, unless it is the first item or directly
behind a text, a line feed and `width` blanks for every element around the tag. -/
def lineBreak (width : Nat) (before : Option Item) (item : Item) : List Char :=
  match before, item with
  | some (.tag _ _), .tag around _ => '\n' :: List.replicate (width * around) ' '
  | _, _ => []

/-- Items with line breaks between them, behind an item or at the beginning. -/
def indented (width : Nat) (before : Option Item) : List Item → List Char
  | [] => []
  | item :: items => lineBreak width before item ++ item.print ++ indented width (some item) items

end Item

/-- The items of a row of events inside open elements. Where nothing is open, nothing is
finished. -/
def items : List Event → List String → List Item
  | [], _ => []
  | .declaration :: events, unclosed => .tag unclosed.length declarationTag :: items events unclosed
  | .text value :: events, unclosed => .text value :: items events unclosed
  | .start name :: events, unclosed =>
    .tag unclosed.length (startTag name) :: items events (name :: unclosed)
  | .finish :: events, [] => items events []
  | .finish :: events, name :: outer => .tag outer.length (endTag name) :: items events outer

example : Item.indented 2 none (items (.start "tags" :: (leaf "tag" "" ++ [.finish])) []) =
    "<tags>\n  <tag></tag>\n</tags>".toList := by decide

namespace Pen

/-- A pen that does not indent writes the items one after another. -/
theorem print_compact (events : List Event) (unclosed : List String) :
    print events ⟨none, unclosed⟩ = (items events unclosed).flatMap Item.print := by
  induction events generalizing unclosed with
  | nil => rfl
  | cons event events ih =>
    rw [print_cons]
    cases event with
    | declaration => exact congrArg (declarationTag ++ ·) (ih unclosed)
    | text value =>
      rw [offers, List.flatten_singleton]
      exact congrArg (escape value ++ ·) (ih unclosed)
    | start name =>
      rw [offers, List.flatten_singleton]
      exact congrArg (startTag name ++ ·) (ih (name :: unclosed))
    | finish =>
      cases unclosed with
      | nil => exact ih []
      | cons name outer =>
        rw [offers, List.flatten_singleton]
        exact congrArg (endTag name ++ ·) (ih outer)

/-- The pen of a margin whose blanks fit the open elements, behind an item or at the
beginning. -/
def behind (width : Nat) (before : Option Item) (unclosed : List String) : Pen where
  margin := some
    { width
      blanks := width * unclosed.length
      breakLine := before matches some (.tag ..) }
  unclosed

theorem lead_behind (width : Nat) (before : Option Item) (unclosed : List String)
    (written : List Char) :
    (behind width before unclosed).lead =
      Item.lineBreak width before (.tag unclosed.length written) := by
  rcases before with _ | ⟨⟨⟩ | ⟨⟩⟩ <;> rfl

/-- An end tag stands as far in as its start tag, one element less than what it closes. -/
theorem shallower_behind (width : Nat) (before : Option Item) (name : String)
    (outer : List String) :
    ((behind width before (name :: outer)).move .shallower).margin =
      (behind width before outer).margin := by
  simp only [behind, move, Option.map_some, Margin.shallower, List.length_cons, Nat.mul_succ,
    Nat.add_sub_cancel]

/-- A pen that indents puts the line breaks between the items, and nothing else. -/
theorem print_behind (width : Nat) (events : List Event) (before : Option Item)
    (unclosed : List String) :
    (behind width before unclosed).print events =
      Item.indented width before (items events unclosed) := by
  induction events generalizing before unclosed with
  | nil => rfl
  | cons event events ih =>
    rw [print_cons]
    cases event with
    | declaration =>
      have next : (behind width before unclosed).after .declaration =
          behind width (some (.tag unclosed.length declarationTag)) unclosed := rfl
      rw [next, ih, offers, List.flatten_singleton, lead_behind width before unclosed declarationTag]
      rfl
    | text value =>
      have next : (behind width before unclosed).after (.text value) =
          behind width (some (.text value)) unclosed := rfl
      rw [next, ih, offers, List.flatten_singleton]
      rcases before with _ | ⟨⟨⟩ | ⟨⟩⟩ <;> rfl
    | start name =>
      have next : (behind width before unclosed).after (.start name) =
          behind width (some (.tag unclosed.length (startTag name))) (name :: unclosed) := rfl
      rw [next, ih, offers, List.flatten_singleton, lead_behind width before unclosed (startTag name)]
      rfl
    | finish =>
      cases unclosed with
      | nil => exact ih before []
      | cons name outer =>
        have closing := shallower_behind width before name outer
        have next : (behind width before (name :: outer)).after .finish =
            behind width (some (.tag outer.length (endTag name))) outer := by
          simp only [after, move] at closing ⊢
          rw [closing]
          rfl
        have text : (behind width before (name :: outer)).offers .finish =
            [(behind width before outer).lead ++ endTag name] := by
          rw [offers, lead, closing]
          rfl
        rw [next, ih, text, List.flatten_singleton, lead_behind width before outer (endTag name)]
        rfl

end Pen

namespace Node

mutual

/-- The elements that hold no element, in the order of the text. -/
def leaves : Node → List Node
  | .character _ => []
  | .element name content =>
    if content.any isElement then leavesAll content else [.element name content]

def leavesAll : List Node → List Node
  | [] => []
  | node :: nodes => node.leaves ++ leavesAll nodes

end

theorem any_trimAll (nodes : List Node) : (trimAll nodes).any isElement = nodes.any isElement := by
  rw [trimAll_eq_map, List.any_map]
  exact congrArg nodes.any (funext isElement_trim)

theorem trimmed_of_plain {nodes : List Node} (plain : nodes.any isElement = false) :
    trimmed nodes = nodes := by
  have same : trimAll nodes = nodes := by
    rw [trimAll_eq_map]
    refine (List.map_congr_left fun node inside => ?_).trans (List.map_id nodes)
    cases node with
    | character c => rfl
    | element name content => exact absurd rfl (List.any_eq_false.mp plain _ inside)
  rw [trimmed, same, withoutBlanks, plain, Bool.false_and, if_neg Bool.false_ne_true]

theorem any_withoutBlanks (nodes : List Node) :
    (withoutBlanks nodes).any isElement = nodes.any isElement := by
  rw [withoutBlanks]
  split
  · rw [List.any_filter]
    simp only [Bool.and_self]
  · rfl

/-- A character is no leaf. -/
theorem leavesAll_filter (nodes : List Node) : leavesAll (nodes.filter isElement) = leavesAll nodes := by
  induction nodes with
  | nil => rfl
  | cons node nodes ih =>
    cases node with
    | character c => exact ih
    | element name content => exact congrArg (leaves (.element name content) ++ ·) ih

theorem leavesAll_withoutBlanks (nodes : List Node) :
    leavesAll (withoutBlanks nodes) = leavesAll nodes := by
  rw [withoutBlanks]
  split
  · exact leavesAll_filter nodes
  · rfl

mutual

theorem leaves_trim (node : Node) : node.trim.leaves = node.leaves := by
  cases node with
  | character c => rfl
  | element name content =>
    cases holds : content.any isElement with
    | false =>
      have same : withoutBlanks (trimAll content) = content := trimmed_of_plain holds
      rw [trim, same]
    | true =>
      simp only [trim, leaves, any_withoutBlanks, any_trimAll, holds, if_true,
        leavesAll_withoutBlanks, leavesAll_trimAll content]

theorem leavesAll_trimAll (nodes : List Node) : leavesAll (trimAll nodes) = leavesAll nodes := by
  cases nodes with
  | nil => rfl
  | cons node nodes =>
    simp only [trimAll, leavesAll, leaves_trim node, leavesAll_trimAll nodes]

end

end Node

end ComponentDocs.Markup
