/-! Texts cut at a separator. -/
namespace ComponentDocs.Text

/-- The text before the first separator, and the texts between the others. -/
def cut (separator : Char) : List Char → List Char × List (List Char)
  | [] => ([], [])
  | c :: rest =>
    let (first, others) := cut separator rest
    if c = separator then ([], first :: others) else (c :: first, others)

/-- The pieces of a text between separators: one more than there are separators. -/
def split (separator : Char) (text : List Char) : List (List Char) :=
  (cut separator text).1 :: (cut separator text).2

theorem length_split (separator : Char) (text : List Char) :
    (split separator text).length = text.count separator + 1 := by
  induction text with
  | nil => rfl
  | cons c rest ih =>
    have counted : (cut separator rest).2.length = rest.count separator := by simpa [split] using ih
    by_cases same : c = separator <;> simp [split, cut, same, counted]

theorem split_of_not_mem {separator : Char} {text : List Char} (free : separator ∉ text) :
    split separator text = [text] := by
  suffices cut separator text = (text, []) by simp [split, this]
  induction text with
  | nil => rfl
  | cons c rest ih =>
    obtain ⟨ne, free⟩ := not_or.mp (mt List.mem_cons.mpr free)
    simp [cut, ih free, Ne.symm ne]

theorem split_append_cons {separator : Char} {piece : List Char} (free : separator ∉ piece)
    (rest : List Char) :
    split separator (piece ++ separator :: rest) = piece :: split separator rest := by
  suffices cut separator (piece ++ separator :: rest) = (piece, split separator rest) by
    simp only [split, this]
  induction piece with
  | nil => simp [cut, split]
  | cons c piece ih =>
    obtain ⟨ne, free⟩ := not_or.mp (mt List.mem_cons.mpr free)
    simp [cut, ih free, Ne.symm ne]

end ComponentDocs.Text
