import ComponentDocs.Proofs.Markup.Pen
import ComponentDocs.Proofs.Markup.Reader

/-! Blanks between elements: what a margin puts before a tag, and how a reader drops it
again. Only an element that holds elements and otherwise nothing but blanks loses them. -/
namespace ComponentDocs.Markup

/-- What stands before a tag, as nodes of the enclosing element. -/
def blanks (margin : Option Margin) : List Node := (leadOf margin).map .character

/-- The margin one level further in. -/
def inner (margin : Option Margin) : Option Margin := margin.map .deeper

/-- The margin behind a tag. -/
def behindTag (margin : Option Margin) : Option Margin := margin.map .afterTag

theorem behindTag_behindTag (margin : Option Margin) :
    behindTag (behindTag margin) = behindTag margin := by
  cases margin <;> rfl

theorem behindTag_inner (margin : Option Margin) :
    behindTag (inner margin) = inner (behindTag margin) := by
  cases margin <;> rfl

theorem shallower_inner (margin : Option Margin) : (inner margin).map .shallower = margin := by
  cases margin with
  | none => rfl
  | some margin =>
    simp only [inner, Option.map_some, Margin.deeper, Margin.shallower, Nat.add_sub_cancel]

theorem behindTag_inner_behindTag (margin : Option Margin) :
    behindTag (inner (behindTag margin)) = inner (behindTag margin) := by
  rw [behindTag_inner, behindTag_behindTag]

/-- Nodes with the blanks of a margin before each. -/
def spaced (margin : Option Margin) (nodes : List Node) : List Node :=
  nodes.flatMap fun node => blanks margin ++ [node]

theorem spaced_none (nodes : List Node) : spaced none nodes = nodes := List.flatMap_singleton' nodes

theorem leadOf_blank (margin : Option Margin) : ∀ c ∈ leadOf margin, c = '\n' ∨ c = ' ' := by
  cases margin with
  | none => simp [leadOf]
  | some margin =>
    intro c inside
    simp only [leadOf, Margin.lead] at inside
    split at inside
    · rcases List.mem_cons.mp inside with newline | blank
      · exact .inl newline
      · exact .inr (List.mem_replicate.mp blank).2
    · cases inside

theorem printAll_characters {text : List Char} (plain : ∀ c ∈ text, escapeChar c = [c]) :
    Node.printAll (text.map .character) = text := by
  induction text with
  | nil => rfl
  | cons c text ih =>
    simp only [List.map_cons, Node.printAll, Node.print, plain c (by simp),
      ih fun other inside => plain other (by simp [inside]), List.singleton_append]

theorem printAll_blanks (margin : Option Margin) : Node.printAll (blanks margin) = leadOf margin := by
  refine printAll_characters fun c inside => ?_
  rcases leadOf_blank margin c inside with rfl | rfl <;> rfl

theorem allNamed_blanks (margin : Option Margin) : Node.AllNamed (blanks margin) := by
  rw [Node.allNamed_iff]
  intro node inside
  obtain ⟨c, -, rfl⟩ := List.mem_map.mp inside
  exact trivial

theorem allNamed_spaced (margin : Option Margin) {nodes : List Node}
    (named : ∀ node ∈ nodes, node.Named) : Node.AllNamed (spaced margin nodes) := by
  rw [Node.allNamed_iff]
  intro node inside
  obtain ⟨other, there, inside⟩ := List.mem_flatMap.mp inside
  rcases List.mem_append.mp inside with blank | single
  · exact Node.allNamed_iff.mp (allNamed_blanks margin) node blank
  · exact List.mem_singleton.mp single ▸ named other there

namespace Node

/-- A character that only separates. -/
def isBlank : Node → Bool
  | .character c => c = ' ' || c = '\n' || c = '\t' || c = '\r'
  | .element _ _ => false

def withoutBlanks (nodes : List Node) : List Node :=
  if nodes.any isElement && nodes.all fun node => node.isElement || node.isBlank then
    nodes.filter isElement
  else nodes

mutual

/-- The node without the blanks between the elements inside it. -/
def trim : Node → Node
  | .character c => .character c
  | .element name content => .element name (withoutBlanks (trimAll content))

def trimAll : List Node → List Node
  | [] => []
  | node :: nodes => node.trim :: trimAll nodes

end

/-- What an element holds, without the blanks between elements at any depth. -/
def trimmed (nodes : List Node) : List Node := withoutBlanks (trimAll nodes)

theorem trimAll_eq_map (nodes : List Node) : trimAll nodes = nodes.map trim := by
  induction nodes with
  | nil => rfl
  | cons node nodes ih => simp only [trimAll, ih, List.map_cons]

theorem trimAll_append (first second : List Node) :
    trimAll (first ++ second) = trimAll first ++ trimAll second := by
  simp only [trimAll_eq_map, List.map_append]

theorem isElement_trim (node : Node) : node.trim.isElement = node.isElement := by
  cases node <;> rfl

theorem trimmed_ofText (text : String) : trimmed (ofText text) = ofText text := by
  have characters : trimAll (ofText text) = ofText text := by
    rw [trimAll_eq_map, ofText, List.map_map]
    rfl
  have noElement : (ofText text).any isElement = false := by
    rw [ofText, List.any_map]
    exact List.any_eq_false.mpr fun c _ => Bool.false_ne_true
  rw [trimmed, characters, withoutBlanks, noElement, Bool.false_and, if_neg Bool.false_ne_true]

end Node

theorem mem_blanks {margin : Option Margin} {node : Node} (inside : node ∈ blanks margin) :
    node.isBlank ∧ node.isElement = false ∧ node.trim = node := by
  obtain ⟨c, there, rfl⟩ := List.mem_map.mp inside
  rcases leadOf_blank margin c there with rfl | rfl <;> exact ⟨rfl, rfl, rfl⟩

theorem trimAll_blanks (margin : Option Margin) : Node.trimAll (blanks margin) = blanks margin := by
  rw [Node.trimAll_eq_map]
  exact (List.map_congr_left fun node inside => (mem_blanks inside).2.2).trans (List.map_id _)

theorem trimAll_spaced (margin : Option Margin) (nodes : List Node) :
    Node.trimAll (spaced margin nodes) = spaced margin (nodes.map Node.trim) := by
  have same := trimAll_blanks margin
  rw [Node.trimAll_eq_map] at same
  simp only [Node.trimAll_eq_map, spaced, List.map_flatMap, List.flatMap_map, List.map_append, same,
    List.map_singleton]

theorem filter_blanks (margin : Option Margin) : (blanks margin).filter Node.isElement = [] := by
  rw [List.filter_eq_nil_iff]
  intro node inside
  rw [(mem_blanks inside).2.1]
  exact Bool.false_ne_true

theorem filter_spaced (margin : Option Margin) {nodes : List Node}
    (elements : ∀ node ∈ nodes, node.isElement) :
    (spaced margin nodes).filter Node.isElement = nodes := by
  induction nodes with
  | nil => rfl
  | cons node nodes ih =>
    have others := ih fun other inside => elements other (by simp [inside])
    rw [spaced] at others
    rw [spaced, List.flatMap_cons, List.filter_append, List.filter_append, filter_blanks, others,
      List.filter_cons_of_pos (elements node (by simp)), List.filter_nil]
    rfl

theorem blank_or_element_of_mem (margin outer : Option Margin) {nodes : List Node}
    (elements : ∀ node ∈ nodes, node.isElement) :
    ∀ node ∈ spaced margin nodes ++ blanks outer, node.isElement || node.isBlank := by
  intro node inside
  rw [Bool.or_eq_true]
  rcases List.mem_append.mp inside with inside | blank
  · obtain ⟨other, there, inside⟩ := List.mem_flatMap.mp inside
    rcases List.mem_append.mp inside with blank | single
    · exact .inr (mem_blanks blank).1
    · exact .inl (List.mem_singleton.mp single ▸ elements other there)
  · exact .inr (mem_blanks blank).1

theorem trimmed_spaced {outer margin : Option Margin} {nodes : List Node} (inhabited : nodes ≠ [])
    (elements : ∀ node ∈ nodes, node.isElement) :
    Node.trimmed (spaced margin nodes ++ blanks outer) = nodes.map Node.trim := by
  have trimmed : ∀ node ∈ nodes.map Node.trim, node.isElement := by
    intro node inside
    obtain ⟨other, there, rfl⟩ := List.mem_map.mp inside
    rw [Node.isElement_trim]
    exact elements other there
  have split : Node.trimAll (spaced margin nodes ++ blanks outer) =
      spaced margin (nodes.map Node.trim) ++ blanks outer := by
    rw [Node.trimAll_append, trimAll_spaced, trimAll_blanks]
  have kept : (spaced margin (nodes.map Node.trim) ++ blanks outer).filter Node.isElement =
      nodes.map Node.trim := by
    rw [List.filter_append, filter_spaced margin trimmed, filter_blanks, List.append_nil]
  have some : (spaced margin (nodes.map Node.trim) ++ blanks outer).any Node.isElement = true := by
    obtain ⟨node, others, rfl⟩ := List.exists_cons_of_ne_nil inhabited
    have inside : node.trim ∈ ((node :: others).map Node.trim) := by simp
    rw [← kept] at inside
    exact List.any_eq_true.mpr ⟨node.trim, List.mem_filter.mp inside⟩
  have all := List.all_eq_true.mpr (blank_or_element_of_mem margin outer trimmed)
  rw [Node.trimmed, split, Node.withoutBlanks, some, all, Bool.and_self, if_pos rfl, kept]

end ComponentDocs.Markup
