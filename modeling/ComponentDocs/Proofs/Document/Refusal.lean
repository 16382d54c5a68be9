import ComponentDocs.Proofs.Document.Text

/-! What a renderer reports when its sink refuses a write. The text of the refusal is always
kept. Its kind is kept by XML, and by JSON only for the line feed behind the object. -/
namespace ComponentDocs.Renderer

/-- The failure that is reported for a refusal, when a sink has room for `room` bytes of a
document of `size` bytes. All but the last byte of a JSON document are those of its object. -/
def reported (format : Format) (size room : Nat) (refusal : Failure) : Failure :=
  match format with
  | .xml => refusal
  | .json => if room + 1 < size then Json.DocumentWriter.objectFailure refusal else refusal

theorem reported_message (format : Format) (size room : Nat) (refusal : Failure) :
    (reported format size room refusal).message = refusal.message := by
  cases format with
  | xml => rfl
  | json =>
    rw [reported]
    split <;> rfl

variable {request : Request} {options : Options} {sink : Sink} {room : Nat}

/-- Sections that fail decide the result of a document, whatever its flush does. -/
theorem document_of_failed {renderer next : Renderer} {failure : Failure}
    (failed : eachStep write request.sections (renderer.begun request) = (.error failure, next)) :
    (renderer.document request).1 = .error failure := by
  have seen := renderer.seen_document request
  rw [failed] at seen
  exact congrArg Prod.fst seen

theorem document_xml_refused (limited : sink.room = some room)
    (short : room < (Sink.bytesOf (request.text .xml options)).size) :
    ((create .xml options sink).document request).1 = .error sink.refusal := by
  let fresh : Markup.DocumentWriter :=
    { declares := options.xmlDeclaration
      margin := options.indent.map fun width => { width }
      sink
      log := [request.component.openingEvent] }
  obtain ⟨result, reached, written, offered⟩ := sections_xml request fresh
  obtain ⟨writes, cut⟩ : ∃ writes, eachStep Sink.writeText (request.offers .xml options) sink =
      (.error sink.refusal, sink.cut (Sink.bytesOf (request.text .xml options)) room writes) :=
    Sink.offer_of_lt limited short
  have failed : result = .error sink.refusal := by
    have answer := offered.result
    rwa [show fresh.pen.offersAll (request.markup fresh.declares) = request.offers .xml options from rfl,
      show fresh.sink = sink from rfl, cut] at answer
  rw [failed] at written
  exact document_of_failed written

theorem document_json_refused (limited : sink.room = some room)
    (short : room < (Sink.bytesOf (request.text .json options)).size) :
    ((create .json options sink).document request).1 =
      .error (reported .json (Sink.bytesOf (request.text .json options)).size room sink.refusal) := by
  obtain ⟨full, layout, same, members, written⟩ := sections_json request
    { layout := options.indent, sink, log := [request.component.openingEvent] }
  obtain rfl : full.sink = sink := same
  obtain ⟨object, printed⟩ : ∃ object, (Json.object full.members).print full.layout 0 = object := ⟨_, rfl⟩
  have text : request.text .json options = object ++ ['\n'] := by
    rw [members, layout] at printed
    simp only [Request.text, Request.offers, printed, List.flatten_cons, List.flatten_nil, List.append_nil]
  have feed : (Sink.bytesOf ['\n']).size = 1 := by decide
  rw [text, Sink.bytesOf_append, ByteArray.size_append, feed] at short ⊢
  by_cases inside : room < (Sink.bytesOf object).size
  · have refused : full.sink.writeText object =
        (.error full.sink.refusal, full.sink.cut (Sink.bytesOf object) room 0) :=
      Sink.write_of_lt limited inside
    have failed : full.deliver.1 = .error (Json.DocumentWriter.objectFailure full.sink.refusal) := by
      simp only [Json.DocumentWriter.deliver, printed, refused]
    rw [failed] at written
    rw [document_of_failed written, reported, if_pos (by omega)]
  · have fits : full.sink.HasRoom (Sink.bytesOf object).size := by
      intro other known
      rw [limited] at known
      cases known
      omega
    have taken : full.sink.writeText object = (.ok (), full.sink.took (Sink.bytesOf object) 1) :=
      Sink.write_of_hasRoom fits
    -- The object has used up all the room, so it is the line feed that is refused.
    have left : (full.sink.took (Sink.bytesOf object) 1).room = some (room - (Sink.bytesOf object).size) := by
      simp only [Sink.took, limited, Option.map_some]
    have refused : ((full.sink.took (Sink.bytesOf object) 1).writeText ['\n']).1 =
        .error full.sink.refusal := by
      have short : room - (Sink.bytesOf object).size < (Sink.bytesOf ['\n']).size := by omega
      exact congrArg Prod.fst (Sink.write_of_lt left short)
    have failed : full.deliver.1 = .error full.sink.refusal := by
      simp only [Json.DocumentWriter.deliver, printed, taken]
      exact refused
    rw [failed] at written
    rw [document_of_failed written, reported, if_neg (by omega)]

/-- Wherever in a document its sink refuses a write, the text of the refusal is reported behind
the same words; its kind is reported too, unless the refusal falls inside a JSON object. -/
theorem document_refusal (request : Request) (format : Format) (options : Options) (sink : Sink) :
    ∃ bytes, request.render format options = .ok bytes ∧
      ∀ room failure, sink.room = some room → sink.writeFailure = some failure → room < bytes.size →
        ∃ answer, ((create format options sink).document request).1 = .error answer ∧
          (answer.kind = failure.kind ↔
            format = .xml ∨ room + 1 = bytes.size ∨ failure.kind = .other) ∧
          (DocumentError.sink answer).message = "failed to write documentation: " ++ failure.message := by
  refine ⟨_, request.render_eq format options, ?_⟩
  intro room failure limited fails short
  have refusal : sink.refusal = failure := by rw [Sink.refusal, fails, Option.getD_some]
  refine ⟨reported format (Sink.bytesOf (request.text format options)).size room failure, ?_, ?_, ?_⟩
  · rw [← refusal]
    cases format with
    | xml => exact document_xml_refused limited short
    | json => exact document_json_refused limited short
  · cases format with
    | xml => simp [reported]
    | json =>
      by_cases inside : room + 1 < (Sink.bytesOf (request.text .json options)).size
      · have notLast : room + 1 ≠ (Sink.bytesOf (request.text .json options)).size := by omega
        simp [reported, inside, notLast, Json.DocumentWriter.objectFailure, eq_comm]
      · have last : room + 1 = (Sink.bytesOf (request.text .json options)).size := by omega
        simp [reported, last]
  · exact congrArg ("failed to write documentation: " ++ ·) (reported_message format _ room failure)

/-- A sink without room that calls its refusal a broken pipe is reported, for a document in
JSON, as a failure of no particular kind. -/
theorem object_refusal_loses_kind :
    ((create .json {} { room := some 0, writeFailure := some ⟨.brokenPipe, "gone"⟩ }).document
      (.ofComponent { className := "P", kind := .processor {} })).1 = .error ⟨.other, "gone"⟩ ∧
    FailureKind.other ≠ .brokenPipe := by
  constructor
  · rfl
  · decide

end ComponentDocs.Renderer
