import ComponentDocs.Proofs.Document.Text
import ComponentDocs.Proofs.Markup.Balance

/-! Documents written one after another by the same renderer. Whatever a renderer was used for,
and whatever failed, its next document is that of a fresh renderer; only an indenting writer
of XML remembers that it has written, and begins a new line. -/
namespace ComponentDocs

open Markup (Balanced Event Margin Pen)

namespace Content

mutual

theorem balanced_events (content : Content) (name : String) : Balanced (content.events name) := by
  cases content with
  | text | missing | flag | count => exact Markup.balanced_leaf _ _
  | record members => exact .element name (balanced_memberEvents members) .nil
  | list item items =>
    cases items with
    | nil => exact Markup.balanced_leaf _ _
    | cons first items => exact .element name (balanced_itemEvents item (first :: items)) .nil

theorem balanced_memberEvents (members : List (String × Content)) :
    Balanced (memberEvents members) := by
  cases members with
  | nil => exact .nil
  | cons member members =>
    exact (balanced_events member.2 member.1).append (balanced_memberEvents members)

theorem balanced_itemEvents (item : String) (items : List Content) :
    Balanced (itemEvents item items) := by
  cases items with
  | nil => exact .nil
  | cons content items => exact (balanced_events content item).append (balanced_itemEvents item items)

end

end Content

namespace Request

theorem balanced_markup (request : Request) (declares : Bool) :
    Balanced (request.markup declares) := by
  have root := request.content.balanced_events "extension"
  cases declares with
  | false => exact root
  | true => exact .declaration root

/-- A whole document leaves the pen where it was, behind a tag. -/
theorem afterAll_markup (request : Request) (declares : Bool) (pen : Pen) :
    pen.afterAll (request.markup declares) = pen.move .afterTag := by
  have root (pen : Pen) : pen.afterAll (request.content.events "extension") = pen.move .afterTag :=
    Pen.afterAll_element (Content.balanced_memberEvents _) "extension" pen
  cases declares with
  | false => exact root pen
  | true =>
    refine (root (pen.move .afterTag)).trans ?_
    obtain ⟨margin, unclosed⟩ := pen
    cases margin <;> rfl

/-- Behind a tag, a document begins with what stands there before the next tag. -/
theorem print_markup_afterTag (request : Request) (declares : Bool) {pen : Pen}
    (fresh : pen.lead = []) :
    (pen.move .afterTag).print (request.markup declares) =
      (pen.move .afterTag).lead ++ pen.print (request.markup declares) := by
  have first (tag : List Char) (event : Event) (rest : List Event)
      (offers : ∀ pen : Pen, pen.offers event = [pen.lead ++ tag])
      (after : (pen.move .afterTag).after event = pen.after event) :
      (pen.move .afterTag).print (event :: rest) =
        (pen.move .afterTag).lead ++ pen.print (event :: rest) := by
    simp only [Pen.print_cons, offers, after, fresh, List.flatten_singleton, List.append_assoc,
      List.nil_append]
  obtain ⟨margin, unclosed⟩ := pen
  cases declares with
  | false => exact first _ _ _ (fun _ => rfl) (by cases margin <;> rfl)
  | true => exact first _ _ _ (fun _ => rfl) (by cases margin <;> rfl)

end Request

namespace Sink

/-- Offers texts one after another, up to the first that is refused, and flushes in either
case. A refusal is the result even if the flush fails as well. -/
def deliver (texts : List (List Char)) (sink : Sink) : Except Failure Unit × Sink :=
  match eachStep writeText texts sink with
  | (.ok (), full) => full.flush
  | (.error failure, cut) => (.error failure, cut.flush.2)

/-- An outcome that comes of offering a text, in whatever pieces. -/
def Attempts (text : List Char) (sink : Sink) (outcome : Except Failure Unit × Sink) : Prop :=
  ∃ pieces : List (List Char), pieces.flatten = text ∧ outcome = sink.deliver pieces

theorem writeText_flushes (text : List Char) (sink : Sink) :
    (sink.writeText text).2.flushes = sink.flushes := by
  rw [writeText, write]
  split
  · rfl
  · split <;> rfl

end Sink

/-- What a delivery comes to depends on the members, the layout and the sink. -/
theorem Json.DocumentWriter.deliver_congr {first second : DocumentWriter}
    (layout : first.layout = second.layout) (members : first.members = second.members)
    (sink : first.sink = second.sink) :
    first.deliver.1 = second.deliver.1 ∧ first.deliver.2.sink = second.deliver.2.sink := by
  simp only [deliver, layout, members, sink]
  split <;> exact ⟨rfl, rfl⟩

namespace Renderer

theorem write_flushes (part : Section) (renderer : Renderer) :
    (renderer.write part).2.sink.flushes = renderer.sink.flushes := by
  cases renderer with
  | xml writer =>
    have offered := writer.write_offered part
    have kept := eachStep_keeps (fun sink => sink.flushes = writer.sink.flushes)
      (fun text sink same => (Sink.writeText_flushes text sink).trans same)
      (writer.pen.offersAll (Markup.DocumentWriter.eventsOf writer.declares part)) rfl
    exact (congrArg Sink.flushes offered.sink).trans kept
  | json writer =>
    rcases part.isInner_or with inner | ⟨component, rfl⟩ | ⟨component, rfl⟩
    · rw [write, Json.DocumentWriter.write_inner inner]
      rfl
    · rfl
    · have object := Sink.writeText_flushes ((Json.object writer.members).print writer.layout 0) writer.sink
      simp only [write, Json.DocumentWriter.write, Json.DocumentWriter.deliver]
      split
      · next written => exact (congrArg Sink.flushes (congrArg Prod.snd written)).symm.trans object
      · next sink written =>
        have ended := Sink.writeText_flushes ['\n'] sink
        exact ended.trans ((congrArg Sink.flushes (congrArg Prod.snd written)).symm.trans object)

theorem document_flushes (request : Request) (renderer : Renderer) :
    (renderer.document request).2.sink.flushes = renderer.sink.flushes + 1 := by
  have kept := eachStep_keeps (fun reached => reached.sink.flushes = renderer.sink.flushes)
    (fun part reached same => (write_flushes part reached).trans same) request.sections
    (congrArg Sink.flushes (renderer.sink_note request.component.openingEvent))
  have seen := congrArg (fun seen => seen.2.flushes) (renderer.seen_document request)
  refine seen.trans ?_
  rcases written : eachStep write request.sections (renderer.begun request) with ⟨⟨⟩ | ⟨⟩, reached⟩ <;>
    (rw [begun] at written; rw [written] at kept; exact congrArg (· + 1) kept)

theorem seen_document_xml (request : Request) (writer : Markup.DocumentWriter) :
    seen ((Renderer.xml writer).document request) =
      writer.sink.deliver (writer.pen.offersAll (request.markup writer.declares)) := by
  let noting := writer.note request.component.openingEvent
  obtain ⟨result, reached, written, same, sinks, -, -⟩ := sections_xml request noting
  have written : eachStep write request.sections ((Renderer.xml writer).begun request) =
      (result, .xml reached) := written
  have same : result = (eachStep Sink.writeText
      (writer.pen.offersAll (request.markup writer.declares)) writer.sink).1 := same
  have sinks : reached.sink = (eachStep Sink.writeText
      (writer.pen.offersAll (request.markup writer.declares)) writer.sink).2 := sinks
  rw [seen_document, written, Sink.deliver]
  rcases taken : eachStep Sink.writeText (writer.pen.offersAll (request.markup writer.declares))
    writer.sink with ⟨answer, sink⟩
  rw [taken] at same sinks
  obtain rfl : result = answer := same
  obtain rfl : reached.sink = sink := sinks
  cases result <;> rfl

/-- A successful document of an XML writer leaves it behind a tag, with the elements open that
were open before. -/
theorem document_xml_ok {request : Request} {writer : Markup.DocumentWriter} {next : Renderer}
    (succeeded : (Renderer.xml writer).document request = (.ok (), next)) :
    ∃ after : Markup.DocumentWriter, next = .xml after ∧ after.declares = writer.declares ∧
      after.pen = writer.pen.move .afterTag := by
  obtain ⟨result, reached, written, -, -, declares, moved⟩ :=
    sections_xml request (writer.note request.component.openingEvent)
  have written : eachStep Renderer.writer.write request.sections
      (Renderer.writer.note request.component.openingEvent (.xml writer)) = (result, .xml reached) := written
  rcases flushed : Renderer.writer.flush (.xml reached) with ⟨failure | ⟨⟩, after⟩ <;>
    rcases result with error | ⟨⟩ <;>
    simp only [document, Writer.document, written, flushed] at succeeded <;> cases succeeded
  obtain rfl : Renderer.xml reached.flush.2 = after := congrArg Prod.snd flushed
  exact ⟨_, rfl, declares, (moved rfl).trans (request.afterAll_markup _ _)⟩

/-- Something that is done with a renderer: a single section, a flush, a whole document, or a
change of what its sink accepts from now on and how it fails. -/
inductive Call
  | write (part : Section)
  | flush
  | document (request : Request)
  | resupply (room : Option Nat) (writeFailure flushFailure : Option Failure)

namespace Call

def perform : Call → Renderer → Except Failure Unit × Renderer
  | .write part, renderer => renderer.write part
  | .flush, renderer => renderer.flush
  | .document request, renderer => renderer.document request
  | .resupply room writeFailure flushFailure, renderer =>
    (.ok (), renderer.withSink { renderer.sink with room, writeFailure, flushFailure })

/-- The call writes a whole document, or nothing. -/
def IsWhole : Call → Prop
  | .document _ | .resupply _ _ _ => True
  | .write _ | .flush => False

end Call

/-- The renderer after some calls, whatever came of them. -/
def afterCalls (calls : List Call) (renderer : Renderer) : Renderer :=
  calls.foldl (fun reached call => (call.perform reached).2) renderer

/-- The renderer is for a format and options. Nothing is said of what it keeps between its
calls: open elements, blanks before the next tag, gathered members. -/
def IsFor (format : Format) (options : Options) : Renderer → Prop
  | .xml writer => format = .xml ∧ writer.declares = options.xmlDeclaration ∧
    writer.margin.map Margin.width = options.indent
  | .json writer => format = .json ∧ writer.layout = options.indent

theorem isFor_create (format : Format) (options : Options) (sink : Sink) :
    (create format options sink).IsFor format options := by
  obtain ⟨indent, declares⟩ := options
  cases format with
  | xml => exact ⟨rfl, rfl, by cases indent <;> rfl⟩
  | json => exact ⟨rfl, rfl⟩

theorem width_emit (event : Event) (writer : Markup.DocumentWriter) :
    (Markup.DocumentWriter.emit event writer).2.margin.map Margin.width =
      writer.margin.map Margin.width := by
  have put (text : List Char) (move : Margin → Margin) (writer : Markup.DocumentWriter)
      (same : ∀ margin : Margin, (move margin).width = margin.width) :
      (writer.put text move).2.margin.map Margin.width = writer.margin.map Margin.width := by
    simp only [Markup.DocumentWriter.put, Option.map_map]
    exact congrArg (writer.margin.map ·) (funext same)
  cases event with
  | declaration | text => exact put _ _ writer fun _ => rfl
  | start name =>
    have started := put (writer.lead ++ Markup.startTag name) (fun margin => margin.deeper.afterTag)
      writer fun _ => rfl
    simp only [Markup.DocumentWriter.emit]
    split <;> (next written => rw [written] at started; exact started)
  | finish =>
    simp only [Markup.DocumentWriter.emit]
    split
    · rfl
    · next name outer _ =>
      refine (put _ .afterTag _ fun _ => rfl).trans ?_
      simp only [Option.map_map]
      rfl

theorem width_perform (step : Markup.Step) (writer : Markup.DocumentWriter) :
    (Markup.DocumentWriter.perform step writer).2.margin.map Margin.width =
      writer.margin.map Margin.width := by
  cases step with
  | emit event => exact width_emit event writer
  | note => rfl

section Kept

variable {format : Format} {options : Options} {renderer : Renderer}

theorem isFor_write (part : Section) (known : renderer.IsFor format options) :
    (renderer.write part).2.IsFor format options := by
  cases renderer with
  | xml writer =>
    obtain ⟨rfl, declares, width⟩ := known
    refine ⟨rfl, (writer.write_offered part).declares.trans declares, ?_⟩
    exact eachStep_keeps (fun reached => reached.margin.map Margin.width = options.indent)
      (fun step reached same => (width_perform step reached).trans same) _ width
  | json writer =>
    obtain ⟨rfl, layout⟩ := known
    refine ⟨rfl, Eq.trans ?_ layout⟩
    rcases part.isInner_or with inner | ⟨component, rfl⟩ | ⟨component, rfl⟩
    · rw [Json.DocumentWriter.write_inner inner]
      rfl
    · rfl
    · simp only [Json.DocumentWriter.write, Json.DocumentWriter.deliver]
      split <;> rfl

theorem isFor_note (event : Log.Event) (known : renderer.IsFor format options) :
    (renderer.note event).IsFor format options := by
  cases renderer <;> exact known

theorem isFor_flush (known : renderer.IsFor format options) :
    renderer.flush.2.IsFor format options := by
  cases renderer <;> exact known

theorem isFor_document (request : Request) (known : renderer.IsFor format options) :
    (renderer.document request).2.IsFor format options := by
  have kept := eachStep_keeps (IsFor format options)
    (fun part _ known => isFor_write part known) request.sections
    (isFor_note request.component.openingEvent known)
  simp only [document, Writer.document, writer]
  rcases written : eachStep write request.sections (renderer.note request.component.openingEvent)
    with ⟨⟨⟩ | ⟨⟩, reached⟩ <;>
  · rw [written] at kept
    have after := isFor_flush kept
    rcases flushed : reached.flush with ⟨⟨⟩ | ⟨⟩, next⟩ <;>
    · rw [flushed] at after
      simp only [flushed]
      first | exact after | exact isFor_note _ after

theorem isFor_perform (call : Call) (known : renderer.IsFor format options) :
    (call.perform renderer).2.IsFor format options := by
  cases call with
  | write part => exact isFor_write part known
  | flush => exact isFor_flush known
  | document request => exact isFor_document request known
  | resupply => cases renderer <;> exact known

theorem isFor_afterCalls (calls : List Call) (known : renderer.IsFor format options) :
    (renderer.afterCalls calls).IsFor format options := by
  induction calls generalizing renderer with
  | nil => exact known
  | cons call calls ih => exact ih (isFor_perform call known)

end Kept

theorem seen_document_json (request : Request) {options : Options} {writer : Json.DocumentWriter}
    (layout : writer.layout = options.indent) :
    seen ((Renderer.json writer).document request) =
      seen ((create .json options writer.sink).document request) := by
  let fresh : Json.DocumentWriter := { layout := options.indent, sink := writer.sink }
  obtain ⟨full, layouts, sinks, members, written⟩ :=
    sections_json request (writer.note request.component.openingEvent)
  obtain ⟨full', layouts', sinks', members', written'⟩ :=
    sections_json request (fresh.note request.component.openingEvent)
  have written : eachStep write request.sections ((Renderer.json writer).begun request) =
      (full.deliver.1, .json full.deliver.2) := written
  have written' : eachStep write request.sections ((create .json options writer.sink).begun request) =
      (full'.deliver.1, .json full'.deliver.2) := written'
  obtain ⟨result, sink⟩ := Json.DocumentWriter.deliver_congr
    (layouts.trans (layout.trans layouts'.symm)) (Json.object.inj (members.trans members'.symm))
    (sinks.trans sinks'.symm)
  have sink : (Renderer.json full.deliver.2).sink = (Renderer.json full'.deliver.2).sink := sink
  rw [seen_document, seen_document, written, written', result]
  rcases full'.deliver.1 with failure | ⟨⟩ <;> simp only [sink]

/-- Without a margin, all that a writer of XML keeps are open elements. -/
theorem seen_document_compact (request : Request) {options : Options}
    {writer : Markup.DocumentWriter} (declares : writer.declares = options.xmlDeclaration)
    (compact : options.indent = none) (narrow : writer.margin = none) :
    seen ((Renderer.xml writer).document request) =
      seen ((create .xml options writer.sink).document request) := by
  -- The elements that are left open lie below all that a balanced row of events touches.
  have offers := (Pen.run_below (request.balanced_markup options.xmlDeclaration) writer.unclosed
    ⟨none, []⟩).1
  have pen : writer.pen = Pen.below writer.unclosed ⟨none, []⟩ := by
    rw [Markup.DocumentWriter.pen, narrow]
    rfl
  have created : create .xml options writer.sink = .xml
      { declares := options.xmlDeclaration, margin := none, sink := writer.sink } := by
    rw [create, compact]
    rfl
  rw [created, seen_document_xml, seen_document_xml, declares, pen, offers]
  rfl

theorem pen_of_documents {calls : List Call} {writer : Markup.DocumentWriter} {reached : Renderer}
    (whole : ∀ call ∈ calls, call.IsWhole)
    (succeeds : Succeeds Call.perform calls (.xml writer) reached) :
    ∃ after : Markup.DocumentWriter, reached = .xml after ∧ after.declares = writer.declares ∧
      (after.pen = writer.pen.move .afterTag ∨
        after.pen = writer.pen ∧ ∀ request, .document request ∉ calls) := by
  induction calls generalizing writer with
  | nil =>
    cases succeeds
    exact ⟨writer, rfl, rfl, .inr ⟨rfl, fun _ => List.not_mem_nil⟩⟩
  | cons call calls ih =>
    cases succeeds with
    | cons taken others =>
      have rest (inside : Call) (there : inside ∈ calls) := whole inside (List.mem_cons_of_mem _ there)
      cases call with
      | write | flush => exact (whole _ List.mem_cons_self).elim
      | document request =>
        obtain ⟨next, rfl, declares, moved⟩ := document_xml_ok taken
        obtain ⟨after, rfl, same, pen⟩ := ih rest others
        refine ⟨after, rfl, same.trans declares, .inl ?_⟩
        have twice : (writer.pen.move .afterTag).move .afterTag = writer.pen.move .afterTag := by
          rw [Markup.DocumentWriter.pen]
          cases writer.margin <;> rfl
        rcases pen with behind | ⟨kept, -⟩
        · rw [behind, moved, twice]
        · rw [kept, moved]
      | resupply room writeFailure flushFailure =>
        cases taken
        obtain ⟨after, rfl, same, pen⟩ := ih rest others
        refine ⟨after, rfl, same, ?_⟩
        rcases pen with behind | ⟨kept, absent⟩
        · exact .inl behind
        · refine .inr ⟨kept, fun request there => ?_⟩
          rcases List.mem_cons.mp there with other | there
          · cases other
          · exact absent request there

/-- The next document brings about the same as that of a fresh renderer over the same sink,
with one flush. -/
def StartsAfresh (format : Format) (options : Options) (renderer : Renderer) : Prop :=
  ∀ request : Request,
    seen (renderer.document request) =
        seen ((create format options renderer.sink).document request) ∧
      (renderer.document request).2.sink.flushes = renderer.sink.flushes + 1

theorem startsAfresh_json (options : Options) (sink : Sink) (calls : List Call) :
    StartsAfresh .json options ((create .json options sink).afterCalls calls) := by
  intro request
  refine ⟨?_, document_flushes request _⟩
  have known := isFor_afterCalls calls (isFor_create .json options sink)
  cases used : (create .json options sink).afterCalls calls with
  | xml writer =>
    rw [used] at known
    cases known.1
  | json writer =>
    rw [used] at known
    exact seen_document_json request known.2

theorem startsAfresh_compact {options : Options} (compact : options.indent = none) (sink : Sink)
    (calls : List Call) :
    StartsAfresh .xml options ((create .xml options sink).afterCalls calls) := by
  intro request
  refine ⟨?_, document_flushes request _⟩
  have known := isFor_afterCalls calls (isFor_create .xml options sink)
  cases used : (create .xml options sink).afterCalls calls with
  | xml writer =>
    rw [used] at known
    obtain ⟨-, declares, width⟩ := known
    have narrow : writer.margin = none := Option.map_eq_none_iff.mp (width.trans compact)
    exact seen_document_compact request declares compact narrow
  | json writer =>
    rw [used] at known
    cases known.1

/-- What a renderer was used for does not show in its next document. After any calls, a
renderer of JSON or of compact XML starts afresh. After successful documents, an indenting
renderer of XML attempts a line feed and then the text of a fresh one. -/
theorem documents_independent (options : Options) (sink : Sink) (calls : List Call) :
    StartsAfresh .json options ((create .json options sink).afterCalls calls) ∧
    (options.indent = none →
      StartsAfresh .xml options ((create .xml options sink).afterCalls calls)) ∧
    ∀ used, options.indent.isSome → (∀ call ∈ calls, call.IsWhole) →
      (∃ earlier, .document earlier ∈ calls) →
      eachStep Call.perform calls (create .xml options sink) = (.ok (), used) →
      ∀ request : Request, ∃ text, request.render .xml options = .ok (Sink.bytesOf text) ∧
        Sink.Attempts ('\n' :: text) used.sink (seen (used.document request)) := by
  refine ⟨startsAfresh_json options sink calls,
    fun compact => startsAfresh_compact compact sink calls, ?_⟩
  intro used indented whole ⟨earlier, there⟩ succeeded request
  obtain ⟨after, rfl, declares, pen⟩ := pen_of_documents whole (succeeds_of_eachStep succeeded)
  refine ⟨_, request.render_eq .xml options, _, ?_, seen_document_xml request after⟩
  rcases pen with behind | ⟨-, absent⟩
  · obtain ⟨width, wide⟩ := Option.isSome_iff_exists.mp indented
    have fresh : request.text .xml options =
        Pen.print (request.markup options.xmlDeclaration) ⟨some { width }, []⟩ := by
      rw [Request.text, Request.offers, wide]
      rfl
    have begun : after.pen = Pen.move .afterTag ⟨some { width }, []⟩ := by
      rw [behind, Markup.DocumentWriter.pen, wide]
      rfl
    have declares : after.declares = options.xmlDeclaration := declares
    rw [fresh, declares, begun]
    exact request.print_markup_afterTag options.xmlDeclaration rfl
  · exact absurd there (absent earlier)

/-- A second document, for a sink with room for five more bytes. -/
theorem documents_independent_second :
    let request := Request.ofComponent { className := "A", kind := .reportingTask }
    let calls : List Call := [.document request, .resupply (some 5) none none]
    ∃ used text, eachStep Call.perform calls (create .xml { indent := some 2 } {}) = (.ok (), used) ∧
      Sink.Attempts ('\n' :: text) used.sink (seen (used.document request)) := by
  intro request calls
  have succeeds : (eachStep Call.perform calls (create .xml { indent := some 2 } {})).1.toBool := by
    decide +kernel
  rcases ran : eachStep Call.perform calls (create .xml { indent := some 2 } {})
    with ⟨failure | ⟨⟩, used⟩
  · rw [ran] at succeeds
    cases succeeds
  · have whole : ∀ call ∈ calls, call.IsWhole := by simp [calls, Call.IsWhole]
    obtain ⟨text, -, attempts⟩ := (documents_independent { indent := some 2 } {} calls).2.2 used rfl
      whole ⟨request, List.mem_cons_self⟩ ran request
    exact ⟨used, text, rfl, attempts⟩

end Renderer

end ComponentDocs
