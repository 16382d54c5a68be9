import ComponentDocs.Proofs.Markup.Balance
import ComponentDocs.Proofs.Markup.Blanks

/-! Texts whose tags match although elements may still be open at their end. Such a text takes
one stack of open elements to another, so texts that fit can be joined. -/
namespace ComponentDocs.Markup

/-- The open elements behind a token, innermost first. An end tag must match the innermost. -/
def Token.nest : Token → List String → Option (List String)
  | .start name, unclosed => some (name :: unclosed)
  | .finish _, [] => none
  | .finish name, opened :: outer => if name = opened then some outer else none
  | _, unclosed => some unclosed

def Token.nestAll : List Token → List String → Option (List String)
  | [], unclosed => some unclosed
  | token :: tokens, unclosed => (token.nest unclosed).bind (nestAll tokens)

/-- The text consists of tokens that take the open elements `before` to those `after`. -/
def Nests (text : List Char) (before after : List String) : Prop :=
  ∃ tokens, scan .content text = some tokens ∧ Token.nestAll tokens before = some after

theorem Token.nestAll_append (first second : List Token) (unclosed : List String) :
    nestAll (first ++ second) unclosed = (nestAll first unclosed).bind (nestAll second) := by
  induction first generalizing unclosed with
  | nil => rfl
  | cons token tokens ih =>
    rw [List.cons_append, nestAll, nestAll, Option.bind_assoc]
    exact congrArg (token.nest unclosed).bind (funext ih)

namespace Nests

theorem nil (unclosed : List String) : Nests [] unclosed unclosed := ⟨[], rfl, rfl⟩

theorem append {first second : List Char} {before between after : List String}
    (former : Nests first before between) (latter : Nests second between after) :
    Nests (first ++ second) before after := by
  obtain ⟨tokens, scanned, nested⟩ := former
  obtain ⟨others, scannedOthers, nestedOthers⟩ := latter
  obtain ⟨printed, named⟩ := print_of_scan scanned
  obtain ⟨printedOthers, namedOthers⟩ := print_of_scan scannedOthers
  refine ⟨tokens ++ others, ?_, ?_⟩
  · have text : first ++ second = (tokens ++ others).flatMap Token.print := by
      rw [List.flatMap_append, ← printed, ← printedOthers]
      rfl
    rw [text]
    apply scan_printAll
    intro token inside
    rcases List.mem_append.mp inside with inside | inside
    · exact named token inside
    · exact namedOthers token inside
  · rw [Token.nestAll_append, nested]
    exact nestedOthers

theorem token (token : Token) {before after : List String} (named : token.Named)
    (nested : token.nest before = some after) : Nests token.print before after := by
  refine ⟨[token], ?_, ?_⟩
  · have scanned := scan_print named []
    rwa [List.append_nil] at scanned
  · simp only [Token.nestAll, nested, Option.bind_some]

theorem printAll_characters {nodes : List Node} (plain : ∀ node ∈ nodes, node.isElement = false)
    (unclosed : List String) : Nests (Node.printAll nodes) unclosed unclosed := by
  induction nodes with
  | nil => exact nil unclosed
  | cons node nodes ih =>
    have others := ih fun other inside => plain other (List.mem_cons_of_mem _ inside)
    cases node with
    | element => cases plain _ List.mem_cons_self
    | character c => exact (token (.character c) trivial rfl).append others

theorem escape (text : String) (unclosed : List String) :
    Nests (Markup.escape text) unclosed unclosed := by
  rw [← Node.printAll_ofText]
  apply printAll_characters
  intro node inside
  obtain ⟨c, -, rfl⟩ := List.mem_map.mp inside
  rfl

theorem leadOf (margin : Option Margin) (unclosed : List String) :
    Nests (Markup.leadOf margin) unclosed unclosed := by
  rw [← printAll_blanks]
  apply printAll_characters
  intro node inside
  exact (mem_blanks inside).2.1

end Nests

/-- The element that an event starts has a name. -/
def Event.Named : Event → Prop
  | .start name => isName name.toList
  | _ => True

namespace Pen

def Named (pen : Pen) : Prop := ∀ name ∈ pen.unclosed, isName name.toList

theorem named_after {event : Event} {pen : Pen} (known : event.Named) (named : pen.Named) :
    (pen.after event).Named := by
  cases event with
  | declaration | text => exact named
  | start name =>
    intro opened inside
    rcases List.mem_cons.mp inside with rfl | inside
    · exact known
    · exact named opened inside
  | finish =>
    obtain ⟨margin, unclosed⟩ := pen
    cases unclosed with
    | nil => exact named
    | cons name outer =>
      intro opened inside
      exact named opened (List.mem_cons_of_mem _ inside)

/-- What an event writes takes the elements open before it to those open after it. -/
theorem nests_offers {event : Event} {pen : Pen} (known : event.Named) (named : pen.Named) :
    Nests (pen.offers event).flatten pen.unclosed (pen.after event).unclosed := by
  cases event with
  | declaration =>
    rw [offers, List.flatten_singleton]
    exact (Nests.leadOf _ _).append (.token .declaration trivial rfl)
  | text value =>
    rw [offers, List.flatten_singleton]
    exact .escape value _
  | start name =>
    rw [offers, List.flatten_singleton]
    exact (Nests.leadOf _ _).append (.token (.start name) known rfl)
  | finish =>
    obtain ⟨margin, unclosed⟩ := pen
    cases unclosed with
    | nil => exact .nil []
    | cons name outer =>
      rw [offers, List.flatten_singleton]
      refine (Nests.leadOf _ _).append (.token (.finish name) ?_ (if_pos rfl))
      exact named name List.mem_cons_self

/-- A row of events, balanced or not, takes the elements open before it to those open after
it. -/
theorem nests_print {events : List Event} {pen : Pen} (known : ∀ event ∈ events, event.Named)
    (named : pen.Named) :
    Nests (pen.print events) pen.unclosed (pen.afterAll events).unclosed := by
  induction events generalizing pen with
  | nil => exact .nil _
  | cons event events ih =>
    have first := known event List.mem_cons_self
    rw [print_cons]
    apply (nests_offers first named).append
    apply ih
    · intro other inside
      exact known other (List.mem_cons_of_mem _ inside)
    · exact named_after first named

end Pen

end ComponentDocs.Markup
