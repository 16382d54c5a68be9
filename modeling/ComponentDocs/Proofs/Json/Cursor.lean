import ComponentDocs.Json.Cursor

/-! How far a cursor moves: behind a character, and behind a run of characters. -/
namespace ComponentDocs.Json.Cursor

variable {cursor : Cursor} {c : Char} {rest : List Char}

theorem rest_next (known : cursor.rest = c :: rest) : cursor.next.rest = rest := by
  obtain ⟨_, position⟩ := cursor
  obtain rfl : _ = c :: rest := known
  rfl

theorem length_next (known : cursor.rest = c :: rest) : cursor.next.rest.length + 1 = cursor.rest.length := by
  rw [rest_next known, known, List.length_cons]

theorem skip_eq (inClass : Char → Bool) (text : List Char) (position : Position) :
    skip inClass text position = (span inClass text position).2 := by
  induction text generalizing position with
  | nil => rfl
  | cons c text ih =>
    rw [skip, span]
    split
    · exact ih _
    · rfl

theorem length_skip_le (inClass : Char → Bool) (text : List Char) (position : Position) :
    (skip inClass text position).rest.length ≤ text.length := by
  induction text generalizing position with
  | nil => exact Nat.le_refl _
  | cons c text ih =>
    rw [skip]
    split
    · exact Nat.le_succ_of_le (ih _)
    · exact Nat.le_refl _

theorem length_skipBlank_le (cursor : Cursor) : cursor.skipBlank.rest.length ≤ cursor.rest.length :=
  length_skip_le isBlank cursor.rest cursor.position

theorem skip_skip (inClass : Char → Bool) (text : List Char) (position : Position) :
    skip inClass (skip inClass text position).rest (skip inClass text position).position =
      skip inClass text position := by
  induction text generalizing position with
  | nil => rfl
  | cons c text ih =>
    by_cases inside : inClass c
    · rw [skip, if_pos inside]
      exact ih _
    · have here : skip inClass (c :: text) position = ⟨c :: text, position⟩ := by rw [skip, if_neg inside]
      rw [here]
      exact here

theorem skipBlank_skipBlank (cursor : Cursor) : cursor.skipBlank.skipBlank = cursor.skipBlank :=
  skip_skip isBlank cursor.rest cursor.position

end ComponentDocs.Json.Cursor
