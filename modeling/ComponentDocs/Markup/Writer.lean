import ComponentDocs.Document.Writer
import ComponentDocs.Markup.Hooks
import ComponentDocs.Sink

/-! Documents as XML. The writer keeps the open elements and, when it indents, the
margin of the next tag. -/
namespace ComponentDocs.Markup

/-- Indentation: `width` blanks per open element, `blanks` before the next tag. A tag
directly after a text, and the very first tag, do not begin a line. -/
structure Margin where
  width : Nat
  blanks : Nat := 0
  breakLine : Bool := false
deriving DecidableEq

namespace Margin

/-- What stands before a tag. -/
def lead (margin : Margin) : List Char :=
  if margin.breakLine then '\n' :: List.replicate margin.blanks ' ' else []

def deeper (margin : Margin) : Margin := { margin with blanks := margin.blanks + margin.width }

def shallower (margin : Margin) : Margin := { margin with blanks := margin.blanks - margin.width }

def afterTag (margin : Margin) : Margin := { margin with breakLine := true }

def afterText (margin : Margin) : Margin := { margin with breakLine := false }

end Margin

/-- A writer of XML over a sink. `unclosed` holds the open elements, innermost first. -/
structure DocumentWriter where
  declares : Bool
  margin : Option Margin
  unclosed : List String := []
  sink : Sink
  log : List Log.Event := []

namespace DocumentWriter

def lead (writer : DocumentWriter) : List Char :=
  match writer.margin with
  | none => []
  | some margin => margin.lead

/-- Offers a text to the sink, and then moves the margin, whether or not the sink took it. -/
def put (text : List Char) (move : Margin → Margin) (writer : DocumentWriter) :
    Except Failure Unit × DocumentWriter :=
  let outcome := writer.sink.writeText text
  (outcome.1, { writer with sink := outcome.2, margin := writer.margin.map move })

/-- Writes one event. An element counts as open once its start tag was written, and as
closed before its end tag is tried. With nothing open there is nothing to finish. -/
def emit : Event → DocumentWriter → Except Failure Unit × DocumentWriter
  | .declaration, writer => writer.put (writer.lead ++ declarationTag) .afterTag
  | .text value, writer => writer.put (escape value) .afterText
  | .start name, writer =>
    match writer.put (writer.lead ++ startTag name) fun margin => margin.deeper.afterTag with
    | (.ok (), next) => (.ok (), { next with unclosed := name :: next.unclosed })
    | (.error failure, next) => (.error failure, next)
  | .finish, writer =>
    match writer.unclosed with
    | [] => (.ok (), writer)
    | name :: outer =>
      let writer := { writer with unclosed := outer, margin := writer.margin.map .shallower }
      writer.put (writer.lead ++ endTag name) .afterTag

def note (event : Log.Event) (writer : DocumentWriter) : DocumentWriter :=
  { writer with log := writer.log ++ [event] }

def perform : Step → DocumentWriter → Except Failure Unit × DocumentWriter
  | .emit event, writer => writer.emit event
  | .note event, writer => (.ok (), writer.note event)

def write (part : Section) (writer : DocumentWriter) : Except Failure Unit × DocumentWriter :=
  eachStep perform (Step.ofSection writer.declares part) writer

def flush (writer : DocumentWriter) : Except Failure Unit × DocumentWriter :=
  let outcome := writer.sink.flush
  (outcome.1, { writer with sink := outcome.2 })

end DocumentWriter

end ComponentDocs.Markup
