import ComponentDocs.Proofs.Document.Headings
import ComponentDocs.Proofs.Snapshot.Gathering
import ComponentDocs.Snapshot.Request

/-! Documents are no snapshots: nothing that is rendered, in either format, can be read as a
request or as a component again. -/
namespace ComponentDocs

namespace Json

theorem parse_of_angle (rest : List Char) : ∃ fault, parse (String.ofList ('<' :: rest)) = .error fault := by
  have solid : (Cursor.ofText (String.ofList ('<' :: rest))).skipBlank = ⟨'<' :: rest, {}⟩ := by
    rw [Cursor.ofText, String.toList_ofList]
    exact skipBlank_of_not (by decide) rest {}
  have none : scalar? ⟨'<' :: rest, {}⟩ = none := rfl
  have refused : ∃ fault, readValue merge nestingLimit (.ofText (String.ofList ('<' :: rest))) = .error fault := by
    unfold readValue
    simp only [solid, none]
    exact ⟨_, rfl⟩
  obtain ⟨fault, refused⟩ := refused
  refine ⟨fault, ?_⟩
  rw [parse, refused]
  rfl

end Json

theorem Component.className_of_ok {origin : Snapshot.Origin} {members : Json.Members} {component : Component}
    (read : Component.shape.ofJson origin (.object members) = .ok component) :
    Json.values "className" members ≠ [] := by
  intro empty
  rw [shape, Snapshot.Shape.ofJson, map_eq_ok_iff] at read
  obtain ⟨⟨values, kind⟩, read, -⟩ := read
  obtain ⟨gathered, -⟩ := Snapshot.Shape.ofJson_extended_eq_ok_iff.mp read
  rw [Snapshot.Fields.need, Snapshot.Fields.gather, empty] at gathered
  cases gathered

namespace Request

/-- No section of a document is called like what a snapshot cannot do without. -/
theorem ofJson_content (request : Request) : ∃ error, Request.ofJson request.content.json = .error error := by
  obtain ⟨members, document, names⟩ : ∃ members, request.content.json = .object members ∧
      members.map Prod.fst = request.headings.map Vocabulary.name := by
    refine ⟨_, rfl, ?_⟩
    rw [Content.jsonMembers_names, content_names]
  have foreign (key : String) (unused : ∀ heading : Heading, Vocabulary.name heading ≠ key) :
      Json.values key members = [] := by
    rw [Json.values_eq_nil_iff, names, List.mem_map]
    rintro ⟨heading, -, same⟩
    exact unused heading same
  have bare : request.content.json.isWrapped = false := by
    have unused := foreign "component" (by intro heading; cases heading <;> decide)
    rw [document, Json.isWrapped, Json.get?_eq_head?, unused]
    rfl
  cases read : Request.ofJson request.content.json with
  | error error => exact ⟨error, rfl⟩
  | ok other =>
    rw [Request.ofJson, bare, mapError_eq_ok_iff] at read
    simp only [Bool.false_eq_true, if_false, map_eq_ok_iff] at read
    obtain ⟨component, read, -⟩ := read
    rw [document] at read
    have unused := foreign "className" (by intro heading; cases heading <;> decide)
    exact absurd unused (Component.className_of_ok read)

theorem ofText_text (request : Request) (format : Format) (options : Options) :
    ∃ error, Request.ofText (String.ofList (request.text format options)) = .error error := by
  cases format with
  | json =>
    obtain ⟨error, refused⟩ := request.ofJson_content
    refine ⟨error, ?_⟩
    rw [Request.ofText, request.parse_text_json options]
    exact refused
  | xml =>
    obtain ⟨rest, begun⟩ : ∃ rest, request.text .xml options = '<' :: rest := by
      rw [text_xml, prologue]
      split
      · exact ⟨_, rfl⟩
      · exact ⟨_, rfl⟩
    obtain ⟨fault, refused⟩ := Json.parse_of_angle rest
    refine ⟨.fault fault, ?_⟩
    rw [begun, Request.ofText, refused]

/-- The bytes of a document are refused where a snapshot is expected. -/
theorem ofText_rendered {request : Request} {format : Format} {options : Options} {content : ByteArray}
    {text : String} (rendered : request.render format options = .ok content)
    (decoded : String.fromUTF8? content = some text) : ∃ error, Request.ofText text = .error error := by
  obtain ⟨error, refused⟩ := request.ofText_text format options
  refine ⟨error, ?_⟩
  have written : content = Sink.bytesOf (request.text format options) := by
    rw [render_eq] at rendered
    exact (Except.ok.inj rendered).symm
  have same : text = String.ofList (request.text format options) := by
    rw [String.fromUTF8?] at decoded
    split at decoded
    · next valid =>
      cases decoded
      exact String.toByteArray_inj.mp (written.trans String.toUTF8_eq_toByteArray)
    · cases decoded
  rw [same]
  exact refused

end Request

end ComponentDocs
