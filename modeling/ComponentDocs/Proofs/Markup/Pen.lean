import ComponentDocs.Markup.Writer
import ComponentDocs.Proofs.Offering

/-! What a writer of markup offers to its sink, as a function of the events alone. The pen
is the part of the writer that decides on the text of the next event: the margin and the
open elements. -/
namespace ComponentDocs.Markup

namespace Step

def event? : Step → Option Event
  | .emit event => some event
  | .note _ => none

def events (steps : List Step) : List Event := steps.filterMap event?

theorem events_append (first second : List Step) :
    events (first ++ second) = events first ++ events second := List.filterMap_append

end Step

/-- What stands before a tag. -/
def leadOf : Option Margin → List Char
  | none => []
  | some margin => margin.lead

structure Pen where
  margin : Option Margin
  unclosed : List String := []

namespace Pen

def move (shift : Margin → Margin) (pen : Pen) : Pen := { pen with margin := pen.margin.map shift }

def lead (pen : Pen) : List Char := leadOf pen.margin

/-- The texts that an event offers: one, or none where there is nothing to finish. -/
def offers : Event → Pen → List (List Char)
  | .declaration, pen => [pen.lead ++ declarationTag]
  | .text value, _ => [escape value]
  | .start name, pen => [pen.lead ++ startTag name]
  | .finish, pen =>
    match pen.unclosed with
    | [] => []
    | name :: _ => [(pen.move .shallower).lead ++ endTag name]

/-- The pen after an event whose text was taken. -/
def after : Event → Pen → Pen
  | .declaration, pen => pen.move .afterTag
  | .text _, pen => pen.move .afterText
  | .start name, pen => ⟨(pen.move fun margin => margin.deeper.afterTag).margin, name :: pen.unclosed⟩
  | .finish, pen =>
    match pen.unclosed with
    | [] => pen
    | _ :: outer => ⟨((pen.move .shallower).move .afterTag).margin, outer⟩

def offersAll : List Event → Pen → List (List Char)
  | [], _ => []
  | event :: events, pen => pen.offers event ++ offersAll events (pen.after event)

def afterAll : List Event → Pen → Pen
  | [], pen => pen
  | event :: events, pen => afterAll events (pen.after event)

def print (events : List Event) (pen : Pen) : List Char := (pen.offersAll events).flatten

theorem print_cons (event : Event) (events : List Event) (pen : Pen) :
    pen.print (event :: events) = (pen.offers event).flatten ++ (pen.after event).print events := by
  simp only [print, offersAll, List.flatten_append]

end Pen

namespace DocumentWriter

def pen (writer : DocumentWriter) : Pen := ⟨writer.margin, writer.unclosed⟩

/-- An outcome that amounts to offering `texts` one after another. The pen is known only
when all were taken. -/
structure Offered (texts : List (List Char)) (pen : Pen) (writer : DocumentWriter)
    (outcome : Except Failure Unit × DocumentWriter) : Prop where
  result : outcome.1 = (eachStep Sink.writeText texts writer.sink).1
  sink : outcome.2.sink = (eachStep Sink.writeText texts writer.sink).2
  declares : outcome.2.declares = writer.declares
  pen : outcome.1 = .ok () → outcome.2.pen = pen

theorem put_offered (text : List Char) (move : Margin → Margin) (writer : DocumentWriter) :
    Offered [text] (writer.pen.move move) writer (writer.put text move) := by
  refine ⟨?_, ?_, rfl, fun _ => rfl⟩ <;> rw [eachStep_singleton] <;> rfl

theorem emit_offered (event : Event) (writer : DocumentWriter) :
    Offered (writer.pen.offers event) (writer.pen.after event) writer (emit event writer) := by
  cases event with
  | declaration => exact put_offered _ _ writer
  | text value => exact put_offered _ _ writer
  | start name =>
    have put := put_offered (writer.lead ++ startTag name) (fun margin => margin.deeper.afterTag) writer
    rcases outcome : writer.put (writer.lead ++ startTag name) (fun margin => margin.deeper.afterTag)
      with ⟨⟨⟩ | ⟨⟩, next⟩
    · rw [outcome] at put
      simp only [emit, outcome]
      exact ⟨put.result, put.sink, put.declares, fun absurd => by cases absurd⟩
    · rw [outcome] at put
      simp only [emit, outcome]
      refine ⟨put.result, put.sink, put.declares, fun ok => ?_⟩
      have moved := put.pen ok
      simp only [pen, Pen.move, Pen.mk.injEq] at moved
      simp only [pen, Pen.after, Pen.move, moved]
  | finish =>
    obtain ⟨declares, margin, unclosed, sink, log⟩ := writer
    cases unclosed with
    | nil => exact ⟨rfl, rfl, rfl, fun _ => rfl⟩
    | cons name outer =>
      have put := put_offered
        (DocumentWriter.lead ⟨declares, margin.map .shallower, outer, sink, log⟩ ++ endTag name)
        .afterTag ⟨declares, margin.map .shallower, outer, sink, log⟩
      exact ⟨put.result, put.sink, put.declares, put.pen⟩

/-- The induction is on the steps; one that tells the log something offers nothing. -/
theorem performAll_offered (steps : List Step) (writer : DocumentWriter) :
    Offered (writer.pen.offersAll (Step.events steps)) (writer.pen.afterAll (Step.events steps)) writer
      (eachStep perform steps writer) := by
  induction steps generalizing writer with
  | nil => exact ⟨rfl, rfl, rfl, fun _ => rfl⟩
  | cons step steps ih =>
    cases step with
    | note event =>
      obtain ⟨result, sink, declares, pen⟩ := ih (writer.note event)
      exact ⟨result, sink, declares, pen⟩
    | emit event =>
      have first := emit_offered event writer
      have events : Step.events (.emit event :: steps) = event :: Step.events steps := rfl
      have step : perform (.emit event) writer = emit event writer := rfl
      simp only [events, Pen.offersAll, Pen.afterAll]
      rcases offered : eachStep Sink.writeText (writer.pen.offers event) writer.sink with ⟨result, sink⟩
      rcases outcome : emit event writer with ⟨⟨⟩ | ⟨⟩, next⟩
      · obtain ⟨same, sinks, declares, -⟩ := first
        rw [outcome, offered] at same sinks
        cases same
        constructor
        · simp only [eachStep, step, outcome, eachStep_append, offered]
        · simpa only [eachStep, step, outcome, eachStep_append, offered] using sinks
        · simpa only [eachStep, step, outcome] using declares
        · intro ok
          simp only [eachStep, step, outcome] at ok
          cases ok
      · obtain ⟨same, sinks, declares, moved⟩ := first
        rw [outcome] at same sinks declares moved
        rw [offered] at same sinks
        cases same
        obtain rfl : next.sink = sink := sinks
        have declares : next.declares = writer.declares := declares
        have rest := ih next
        rw [moved rfl] at rest
        obtain ⟨restResult, restSink, restDeclares, restPen⟩ := rest
        constructor
        · simpa only [eachStep, step, outcome, eachStep_append, offered] using restResult
        · simpa only [eachStep, step, outcome, eachStep_append, offered] using restSink
        · simpa only [eachStep, step, outcome] using restDeclares.trans declares
        · simpa only [eachStep, step, outcome] using restPen

def eventsOf (declares : Bool) (part : Section) : List Event :=
  Step.events (Step.ofSection declares part)

theorem write_offered (part : Section) (writer : DocumentWriter) :
    Offered (writer.pen.offersAll (eventsOf writer.declares part))
      (writer.pen.afterAll (eventsOf writer.declares part)) writer (write part writer) :=
  performAll_offered _ writer

/-- Writing sections one after another is taking all their steps in a row. -/
theorem writeAll_eq (parts : List Section) (writer : DocumentWriter) :
    eachStep write parts writer =
      eachStep perform (parts.flatMap (Step.ofSection writer.declares)) writer := by
  induction parts generalizing writer with
  | nil => rfl
  | cons part parts ih =>
    have kept := (write_offered part writer).declares
    rw [List.flatMap_cons, eachStep_append]
    rw [write] at kept
    simp only [eachStep, write]
    rcases outcome : eachStep perform (Step.ofSection writer.declares part) writer with ⟨⟨⟩ | ⟨⟩, next⟩
    · rfl
    · rw [outcome] at kept
      have kept : next.declares = writer.declares := kept
      simpa only [kept] using ih next

theorem writeAll_offered (parts : List Section) (writer : DocumentWriter) :
    Offered (writer.pen.offersAll (parts.flatMap (eventsOf writer.declares)))
      (writer.pen.afterAll (parts.flatMap (eventsOf writer.declares))) writer
      (eachStep write parts writer) := by
  have events : Step.events (parts.flatMap (Step.ofSection writer.declares)) =
      parts.flatMap (eventsOf writer.declares) := List.filterMap_flatMap
  rw [writeAll_eq, ← events]
  exact performAll_offered _ writer

end DocumentWriter

end ComponentDocs.Markup
