import ComponentDocs.Document.Writer
import ComponentDocs.Json.Hooks
import ComponentDocs.Json.Printer
import ComponentDocs.Sink

/-! Documents as JSON. Sections are gathered in one object, and only the footer
writes: the object, then a line feed. -/
namespace ComponentDocs.Json

/-- A writer of JSON over a sink, with the members gathered since the last header or footer. -/
structure DocumentWriter where
  layout : Layout
  members : Members := []
  sink : Sink
  log : List Log.Event := []

namespace DocumentWriter

def gather (member : String × Json) (writer : DocumentWriter) : DocumentWriter :=
  { writer with members := put member.1 member.2 writer.members }

/-- A failure inside the object is of no particular kind; its text stays. -/
def objectFailure (failure : Failure) : Failure := { failure with kind := .other }

/-- Writes the gathered object and a line feed. The members are gone afterwards, also
when the sink failed. -/
def deliver (writer : DocumentWriter) : Except Failure Unit × DocumentWriter :=
  match writer.sink.writeText ((Json.object writer.members).print writer.layout 0) with
  | (.error failure, sink) => (.error (objectFailure failure), { writer with members := [], sink })
  | (.ok (), sink) =>
    let outcome := sink.writeText ['\n']
    (outcome.1, { writer with members := [], sink := outcome.2 })

def write : Section → DocumentWriter → Except Failure Unit × DocumentWriter
  | .header _, writer => (.ok (), { writer with members := [] })
  | .footer _, writer => writer.deliver
  | inner, writer =>
    match member? inner with
    | some member => (.ok (), writer.gather member)
    | none => (.ok (), writer)

def flush (writer : DocumentWriter) : Except Failure Unit × DocumentWriter :=
  let outcome := writer.sink.flush
  (outcome.1, { writer with sink := outcome.2 })

def note (event : Log.Event) (writer : DocumentWriter) : DocumentWriter :=
  { writer with log := writer.log ++ [event] }

end DocumentWriter

end ComponentDocs.Json
