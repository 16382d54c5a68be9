import ComponentDocs.Document.Section
import ComponentDocs.Log.Event

/-! Writing a document section by section, with any writer. A writer is a state
machine: each section may change its state and may fail. -/
namespace ComponentDocs

open Log (Event)

/-- Takes steps one after the other, up to and including the first that fails. -/
def eachStep {α σ ε : Type} (step : α → σ → Except ε Unit × σ) :
    List α → σ → Except ε Unit × σ
  | [], state => (.ok (), state)
  | item :: items, state =>
    match step item state with
    | (.ok (), next) => eachStep step items next
    | (.error error, next) => (.error error, next)

namespace Component

def openingEvent (component : Component) : Event where
  level := .debug
  target := "extdoc::traversal"
  message := "writing extension document"
  fields := [("class", component.className), ("category", Vocabulary.name component.category)]

def closingEvent (component : Component) : Event where
  level := .debug
  target := "extdoc::traversal"
  message := "extension document complete"
  fields := [("class", component.className)]

/-- A flush that fails behind a section that has failed is not the result, only a warning. -/
def unflushedEvent (component : Component) (error : String) : Event where
  level := .warn
  target := "extdoc::traversal"
  message := "flush failed after write error"
  fields := [("class", component.className), ("error", error)]

end Component

/-- How one format or recorder takes the sections of a document. The log is a part of the state
that a writer changes, and `message` words its errors for the log. -/
structure Writer (σ ε : Type) where
  write : Section → σ → Except ε Unit × σ
  flush : σ → Except ε Unit × σ
  note : Event → σ → σ
  message : ε → String

namespace Writer

variable {σ ε : Type}

/-- Writes every section in canonical order until one fails, then flushes once, in
either case. The first failure is the result; a flush that fails is the result only
after sections that did not. -/
def document (writer : Writer σ ε) (request : Request) (state : σ) : Except ε Unit × σ :=
  let component := request.component
  match eachStep writer.write request.sections (writer.note component.openingEvent state) with
  | (.ok (), next) =>
    match writer.flush next with
    | (.ok (), flushed) => (.ok (), writer.note component.closingEvent flushed)
    | (.error error, flushed) => (.error error, flushed)
  | (.error error, next) =>
    match writer.flush next with
    | (.ok (), flushed) => (.error error, flushed)
    | (.error failure, flushed) =>
      (.error error, writer.note (component.unflushedEvent (writer.message failure)) flushed)

end Writer

end ComponentDocs
