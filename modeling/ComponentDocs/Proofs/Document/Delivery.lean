import ComponentDocs.Proofs.Document.Text

/-! Documents on sinks that fail. Wherever the room of a sink ends inside a document, the
sink holds exactly the bytes it had room for, is not written to again, and is flushed once. -/
namespace ComponentDocs.Renderer

/-- The delivery of the document of any request to any sink, in terms of the document in
memory. Calls stand from the latest to the first, so nothing follows a cut write but the
flush, whose failure counts only where no write failed. -/
theorem document_delivery (request : Request) (format : Format) (options : Options) (sink : Sink) :
    ∃ bytes, request.render format options = .ok bytes ∧
      let room := sink.room.getD bytes.size
      let outcome := (create format options sink).document request
      outcome.2.sink.taken = sink.taken ++ bytes.extract 0 (min room bytes.size) ∧
      outcome.2.sink.flushes = sink.flushes + 1 ∧
      (∃ writes, outcome.2.sink.calls =
        .flush :: ((if bytes.size ≤ room then [] else [.write false]) ++
          (List.replicate writes (.write true) ++ sink.calls))) ∧
      (outcome.1 = .ok () ↔ bytes.size ≤ room ∧ sink.flushFailure = none) ∧
      (room < bytes.size → ∃ failure, outcome.1 = .error failure ∧
        failure.message = (sink.writeFailure.getD .noProgress).message) ∧
      (bytes.size ≤ room → ∀ failure, sink.flushFailure = some failure →
        outcome.1 = .error failure) := by
  refine ⟨_, request.render_eq format options, ?_⟩
  generalize whole : Sink.bytesOf (request.text format options) = bytes
  intro room outcome
  by_cases fits : bytes.size ≤ room
  · have roomy : sink.HasRoom (Sink.bytesOf (request.offers format options).flatten).size := by
      intro limit limited
      simp only [room, limited, Option.getD_some] at fits
      exact whole ▸ fits
    obtain ⟨result, after⟩ := Prod.ext_iff.mp (document_of_taken (Sink.offer_of_hasRoom roomy))
    have result : outcome.1 = _ := result
    have after : outcome.2.sink = _ := after
    rw [show Sink.bytesOf (request.offers format options).flatten = bytes from whole] at result after
    have all : bytes.extract 0 (min room bytes.size) = bytes := by
      rw [Nat.min_eq_right fits, ByteArray.extract_zero_size]
    rw [result, after, all]
    refine ⟨rfl, rfl, ⟨_, by rw [if_pos fits]; rfl⟩, ?_, fun short => by omega, fun _ failure known => ?_⟩
    · cases known : sink.flushFailure <;> simp [Sink.flush, Sink.took, known, fits]
    · simp [Sink.flush, Sink.took, known]
  · have short : room < bytes.size := by omega
    obtain ⟨limit, limited⟩ : ∃ limit, sink.room = some limit := by
      cases known : sink.room with
      | none => simp only [room, known, Option.getD_none, Nat.lt_irrefl] at short
      | some limit => exact ⟨limit, rfl⟩
    have same : room = limit := by simp only [room, limited, Option.getD_some]
    have cramped : limit < (Sink.bytesOf (request.offers format options).flatten).size := by
      rw [show Sink.bytesOf (request.offers format options).flatten = bytes from whole, ← same]
      exact short
    obtain ⟨writes, cut⟩ := Sink.offer_of_lt limited cramped
    obtain ⟨reported, message, seen⟩ := document_of_refused cut
    obtain ⟨failed, after⟩ := Prod.ext_iff.mp seen
    have failed : outcome.1 = .error reported := failed
    have after : outcome.2.sink = _ := after
    rw [show Sink.bytesOf (request.offers format options).flatten = bytes from whole] at after
    rw [failed, after]
    refine ⟨?_, rfl, ⟨writes, by rw [if_neg fits]; rfl⟩, by simp [fits], fun _ => ⟨reported, rfl, message⟩,
      fun holds => absurd holds fits⟩
    rw [Nat.min_eq_left (Nat.le_of_lt short), same]
    rfl

end ComponentDocs.Renderer
