import ComponentDocs.Document.Renderer
import ComponentDocs.Proofs.Document.Refinement

/-! The text of a document as a function of the request, the format and the options. A
fresh renderer offers exactly this text to its sink, cut into the same pieces whatever the
sink does with them. -/
namespace ComponentDocs

namespace Markup.DocumentWriter

theorem eventsOf_inner {part : Section} (inner : part.IsInner) (declares : Bool) :
    eventsOf declares part = Content.memberEvents part.entries := Step.writes_section inner declares

theorem eventsOf_header (declares : Bool) (component : Component) :
    eventsOf declares (.header component) =
      (if declares then [.declaration] else []) ++ [.start "extension"] := by
  cases declares <;> rfl

theorem flatMap_eventsOf {parts : List Section} (inner : ∀ part ∈ parts, part.IsInner)
    (declares : Bool) :
    parts.flatMap (eventsOf declares) = Content.memberEvents (parts.flatMap Section.entries) := by
  induction parts with
  | nil => rfl
  | cons part parts ih =>
    rw [List.flatMap_cons, List.flatMap_cons, Content.memberEvents_append,
      eventsOf_inner (inner part (by simp)), ih fun other inside => inner other (by simp [inside])]

end Markup.DocumentWriter

namespace Json.DocumentWriter

def gatherAll (members : Members) (writer : DocumentWriter) : DocumentWriter :=
  { writer with
    members := members.foldl (fun members member => put member.1 member.2 members) writer.members }

theorem write_inner {part : Section} (inner : part.IsInner) (writer : DocumentWriter) :
    writer.write part = (.ok (), writer.gatherAll (Content.jsonMembers part.entries)) := by
  have gathered : (member? part).toList = Content.jsonMembers part.entries := gathers_section inner
  have written : writer.write part = (.ok (), writer.gatherAll (member? part).toList) := by
    cases part with
    | header | footer => exact inner.elim
    | _ =>
      simp only [write]
      cases member? _ <;> rfl
  rw [written, gathered]

theorem gatherAll_append (first second : Members) (writer : DocumentWriter) :
    (writer.gatherAll first).gatherAll second = writer.gatherAll (first ++ second) := by
  simp only [gatherAll, List.foldl_append]

theorem writeAll_inner {parts : List Section} (inner : ∀ part ∈ parts, part.IsInner)
    (writer : DocumentWriter) :
    eachStep write parts writer =
      (.ok (), writer.gatherAll (Content.jsonMembers (parts.flatMap Section.entries))) := by
  induction parts generalizing writer with
  | nil => rfl
  | cons part parts ih =>
    simp only [eachStep, write_inner (inner part (by simp)), List.flatMap_cons]
    rw [ih fun other inside => inner other (by simp [inside]), gatherAll_append,
      Content.jsonMembers_append]

theorem gatherAll_of_nodup {members : Members} {writer : DocumentWriter}
    (fresh : writer.members = []) (distinct : (members.map Prod.fst).Nodup) :
    writer.gatherAll members = { writer with members } := by
  have kept := foldl_put_of_nodup [] (show (([] ++ members).map Prod.fst).Nodup by
    simpa only [List.nil_append] using distinct)
  simp only [gatherAll, fresh, kept, List.nil_append]

end Json.DocumentWriter

namespace Request

def content (request : Request) : Content := request.view.content

theorem sections_enclosed (request : Request) :
    ∃ inner : List Section, (∀ part ∈ inner, part.IsInner) ∧
      request.sections = .header request.component :: (inner ++ [.footer request.component]) := by
  refine ⟨_, ?_, rfl⟩
  simp only [List.append_eq, List.forall_mem_append, List.forall_mem_cons,
    Section.IsInner, true_and]
  constructor
  · cases request.component.kind.processor? with
    | none => simp
    | some metadata => simp [ProcessorMetadata.sections]
  · cases request.providedApis <;> simp

theorem sections_eq (request : Request) :
    ∃ inner : List Section, (∀ part ∈ inner, part.IsInner) ∧
      inner.flatMap Section.entries = Content.present request.view.slots ∧
      request.sections = .header request.component :: (inner ++ [.footer request.component]) := by
  obtain ⟨inner, inside, sections⟩ := request.sections_enclosed
  refine ⟨inner, inside, ?_, sections⟩
  have header (component : Component) : (Section.header component).entries = [] := rfl
  have footer (component : Component) : [Section.footer component].flatMap Section.entries = [] := rfl
  rw [← flatMap_entries, sections, List.flatMap_cons, List.flatMap_append, header, footer,
    List.nil_append, List.append_nil]

/-- The events of the document of a request, with or without a declaration. -/
def markup (request : Request) (declares : Bool) : List Markup.Event :=
  (if declares then [.declaration] else []) ++ request.content.events "extension"

theorem flatMap_markup (request : Request) (declares : Bool) :
    request.sections.flatMap (Markup.DocumentWriter.eventsOf declares) = request.markup declares := by
  obtain ⟨inner, inside, entries, sections⟩ := request.sections_eq
  have footer (component : Component) :
      [Section.footer component].flatMap (Markup.DocumentWriter.eventsOf declares) = [.finish] := rfl
  rw [sections, List.flatMap_cons, List.flatMap_append,
    Markup.DocumentWriter.eventsOf_header, Markup.DocumentWriter.flatMap_eventsOf inside, entries, footer]
  simp only [markup, content, View.content, Content.events, List.append_assoc, List.cons_append,
    List.nil_append]

/-- The texts that the document of a request offers to its sink, one after another. -/
def offers (request : Request) (format : Format) (options : Options) : List (List Char) :=
  match format with
  | .xml =>
    Markup.Pen.offersAll (request.markup options.xmlDeclaration)
      { margin := options.indent.map fun width => { width } }
  | .json => [request.content.json.print options.indent 0, ['\n']]

def text (request : Request) (format : Format) (options : Options) : List Char :=
  (request.offers format options).flatten

end Request

namespace Renderer

/-- An outcome that reports what a sink answered. A failure is reported under its own
text, though not always under its own kind. -/
structure Reports (answer : Except Failure Unit × Sink) (outcome : Except Failure Unit × Renderer) :
    Prop where
  ok : answer.1 = .ok () → outcome.1 = .ok ()
  failed : ∀ failure, answer.1 = .error failure →
    ∃ reported, outcome.1 = .error reported ∧ reported.message = failure.message
  sink : outcome.2.sink = answer.2

/-- What the owner of the sink sees of an outcome. -/
def seen (outcome : Except Failure Unit × Renderer) : Except Failure Unit × Sink :=
  (outcome.1, outcome.2.sink)

theorem sink_note (event : Log.Event) (renderer : Renderer) :
    (renderer.note event).sink = renderer.sink := by
  cases renderer <;> rfl

theorem flush_eq (renderer : Renderer) :
    renderer.flush.1 = renderer.sink.flush.1 ∧ renderer.flush.2.sink = renderer.sink.flush.2 := by
  cases renderer <;> exact ⟨rfl, rfl⟩

/-- The renderer at the first section of a document, of which it has told the log. -/
def begun (request : Request) (renderer : Renderer) : Renderer :=
  renderer.note request.component.openingEvent

theorem seen_document (request : Request) (renderer : Renderer) :
    seen (renderer.document request) =
      match eachStep write request.sections (renderer.begun request) with
      | (.ok (), reached) => reached.sink.flush
      | (.error failure, reached) => (.error failure, reached.sink.flush.2) := by
  simp only [document, Writer.document, writer, begun]
  rcases eachStep write request.sections (renderer.note request.component.openingEvent)
    with ⟨failure | ⟨⟩, reached⟩
  · obtain ⟨-, sink⟩ := reached.flush_eq
    rcases flushed : reached.flush with ⟨other | ⟨⟩, next⟩ <;> rw [flushed] at sink
    · simp only [flushed, seen, sink_note]
      exact congrArg (Prod.mk _) sink
    · simp only [flushed, seen]
      exact congrArg (Prod.mk _) sink
  · obtain ⟨result, sink⟩ := reached.flush_eq
    rcases flushed : reached.flush with ⟨other | ⟨⟩, next⟩ <;> rw [flushed] at result sink
    · simp only [flushed, seen]
      exact Prod.ext result sink
    · simp only [flushed, seen, sink_note]
      exact Prod.ext result sink

/-- The sections of a request on a writer of XML in any state: what is offered to the sink,
and where the pen ends. -/
theorem sections_xml (request : Request) (writer : Markup.DocumentWriter) :
    ∃ result reached, eachStep write request.sections (.xml writer) = (result, .xml reached) ∧
      Markup.DocumentWriter.Offered (writer.pen.offersAll (request.markup writer.declares))
        (writer.pen.afterAll (request.markup writer.declares)) writer (result, reached) := by
  have offered := Markup.DocumentWriter.writeAll_offered request.sections writer
  rw [request.flatMap_markup] at offered
  exact ⟨_, _, eachStep_embed write Renderer.xml (fun _ _ => rfl) request.sections writer, offered⟩

/-- The sections of a request on a writer of JSON come down to the delivery of one object, whatever
was gathered before. -/
theorem sections_json (request : Request) (writer : Json.DocumentWriter) :
    ∃ full : Json.DocumentWriter, full.layout = writer.layout ∧ full.sink = writer.sink ∧
      Json.object full.members = request.content.json ∧
      eachStep write request.sections (.json writer) = (full.deliver.1, .json full.deliver.2) := by
  let fresh : Json.DocumentWriter := { writer with members := [] }
  let full : Json.DocumentWriter :=
    { writer with members := Content.jsonMembers (Content.present request.view.slots) }
  have delivered : eachStep Json.DocumentWriter.write request.sections writer = full.deliver := by
    obtain ⟨inner, inside, entries, sections⟩ := request.sections_eq
    have gathered := Json.DocumentWriter.writeAll_inner inside fresh
    rw [entries, Json.DocumentWriter.gatherAll_of_nodup rfl (by
      rw [Content.jsonMembers_names]
      exact Content.present_names_nodup request.view.slots_names_nodup)] at gathered
    have cleared : Json.DocumentWriter.write (.header request.component) writer = (.ok (), fresh) := rfl
    rw [sections, eachStep, cleared]
    simp only [eachStep_append, gathered, eachStep_singleton]
    rfl
  have embedded := eachStep_embed write Renderer.json (fun _ _ => rfl) request.sections writer
  exact ⟨full, rfl, rfl, rfl, by rw [embedded, delivered]⟩

variable (request : Request) (options : Options) (sink : Sink)

theorem xml_reports : Reports (eachStep Sink.writeText (request.offers .xml options) sink)
    (eachStep write request.sections ((create .xml options sink).begun request)) := by
  let fresh : Markup.DocumentWriter :=
    { declares := options.xmlDeclaration
      margin := options.indent.map fun width => { width }
      sink
      log := [request.component.openingEvent] }
  obtain ⟨result, reached, written, offered⟩ := sections_xml request fresh
  rw [show (create .xml options sink).begun request = Renderer.xml fresh from rfl, written]
  refine ⟨fun ok => offered.result.trans ok, fun failure failed => ?_, offered.sink⟩
  exact ⟨failure, offered.result.trans failed, rfl⟩

theorem json_reports : Reports (eachStep Sink.writeText (request.offers .json options) sink)
    (eachStep write request.sections ((create .json options sink).begun request)) := by
  let fresh : Json.DocumentWriter :=
    { layout := options.indent, sink, log := [request.component.openingEvent] }
  obtain ⟨full, layout, same, members, delivered⟩ := sections_json request fresh
  obtain rfl : full.sink = sink := same
  have layout : full.layout = options.indent := layout
  rw [show (create .json options full.sink).begun request = Renderer.json fresh from rfl, delivered]
  have object : (Json.object full.members).print full.layout 0 = request.content.json.print options.indent 0 := by
    rw [layout, members]
  rcases written : full.sink.writeText (request.content.json.print options.indent 0) with ⟨failure | ⟨⟩, next⟩
  · simp only [Json.DocumentWriter.deliver, object, written, Request.offers]
    constructor
    · intro ok
      simp only [eachStep, written] at ok
      cases ok
    · intro other failed
      simp only [eachStep, written, Except.error.injEq] at failed
      subst other
      exact ⟨_, rfl, rfl⟩
    · simp only [eachStep, written]
      rfl
  · have rest : eachStep Sink.writeText (request.offers .json options) full.sink = next.writeText ['\n'] := by
      rw [Request.offers, eachStep, written]
      exact eachStep_singleton _ _
    rw [rest]
    simp only [Json.DocumentWriter.deliver, object, written]
    exact ⟨id, fun failure failed => ⟨failure, failed, rfl⟩, rfl⟩

theorem sections_report (format : Format) :
    Reports (eachStep Sink.writeText (request.offers format options) sink)
      (eachStep write request.sections ((create format options sink).begun request)) := by
  cases format with
  | xml => exact xml_reports request options sink
  | json => exact json_reports request options sink

variable {request : Request} {options : Options} {sink : Sink} {format : Format}

/-- A document whose texts the sink takes ends with a flush that decides the result. -/
theorem document_of_taken {full : Sink}
    (taken : eachStep Sink.writeText (request.offers format options) sink = (.ok (), full)) :
    seen ((create format options sink).document request) = full.flush := by
  have offered := sections_report request options sink format
  rw [seen_document]
  rcases written : eachStep write request.sections ((create format options sink).begun request)
    with ⟨failure | ⟨⟩, renderer⟩
  · rw [written, taken] at offered
    cases offered.ok rfl
  · rw [written, taken] at offered
    exact congrArg Sink.flush offered.sink

/-- A document that the sink cuts ends with a flush whose result does not count. -/
theorem document_of_refused {cut : Sink} {failure : Failure}
    (refused : eachStep Sink.writeText (request.offers format options) sink = (.error failure, cut)) :
    ∃ reported, reported.message = failure.message ∧
      seen ((create format options sink).document request) = (.error reported, cut.flush.2) := by
  have offered := sections_report request options sink format
  rw [seen_document]
  rcases written : eachStep write request.sections ((create format options sink).begun request)
    with ⟨other | ⟨⟩, renderer⟩
  · rw [written, refused] at offered
    obtain ⟨reported, result, message⟩ := offered.failed failure rfl
    have result : Except.error other = .error reported := result
    have same : renderer.sink = cut := offered.sink
    simp only [result, same]
    exact ⟨reported, message, rfl⟩
  · rw [written, refused] at offered
    obtain ⟨reported, impossible, -⟩ := offered.failed failure rfl
    cases impossible

end Renderer

theorem Request.render_eq (request : Request) (format : Format) (options : Options) :
    request.render format options = .ok (Sink.bytesOf (request.text format options)) := by
  have roomy : Sink.HasRoom {} (Sink.bytesOf (request.offers format options).flatten).size := by
    intro room limited
    cases limited
  have seen := Renderer.document_of_taken (Sink.offer_of_hasRoom roomy)
  rw [render, renderNoting]
  rcases outcome : (Renderer.create format options {}).document request with ⟨failure | ⟨⟩, renderer⟩
  · rw [outcome] at seen
    cases congrArg Prod.fst seen
  · rw [outcome] at seen
    have same : renderer.sink.taken = .empty ++ Sink.bytesOf (request.text format options) :=
      congrArg (fun seen => seen.2.taken) seen
    simp only [same, ByteArray.empty_append]

end ComponentDocs
