import ComponentDocs.Document.FileName
import Mathlib.Data.List.Forall2

/-! The names that documents are kept under. Each character of a class name becomes one of the
name, so which class names share a name is decided one character at a time. -/
namespace ComponentDocs

def presentName (className : String) : String := if className.isEmpty then "extension" else className

def fileCharacter (c : Char) : Char := if isKept c then c else '_'

/-- Two characters that look the same in a file name: one character, or two that are underscores
there. -/
def LooksAs (c d : Char) : Prop := c = d ∨ (c = '_' ∨ ¬ isKept c) ∧ (d = '_' ∨ ¬ isKept d)

theorem isKept_fileCharacter (c : Char) : isKept (fileCharacter c) := by
  rw [fileCharacter]
  split
  · assumption
  · rfl

theorem fileCharacter_of_isKept {c : Char} (kept : isKept c) : fileCharacter c = c := if_pos kept

theorem fileCharacter_eq_underscore_iff {c : Char} : fileCharacter c = '_' ↔ c = '_' ∨ ¬ isKept c := by
  by_cases kept : isKept c
  · rw [fileCharacter_of_isKept kept, or_iff_left (not_not_intro kept)]
  · rw [fileCharacter, if_neg kept]
    exact iff_of_true rfl (.inr kept)

theorem fileCharacter_inj {c d : Char} : fileCharacter c = fileCharacter d ↔ LooksAs c d := by
  rw [LooksAs, ← fileCharacter_eq_underscore_iff, ← fileCharacter_eq_underscore_iff]
  constructor
  · intro same
    -- A character that is kept stays what it is, so two of them are the same already.
    by_cases kept : isKept c
    · by_cases kept' : isKept d
      · rw [fileCharacter_of_isKept kept, fileCharacter_of_isKept kept'] at same
        exact .inl same
      · have under : fileCharacter d = '_' := fileCharacter_eq_underscore_iff.mpr (.inr kept')
        exact .inr ⟨same.trans under, under⟩
    · have under : fileCharacter c = '_' := fileCharacter_eq_underscore_iff.mpr (.inr kept)
      exact .inr ⟨under, same.symm.trans under⟩
  · rintro (rfl | ⟨under, under'⟩)
    · rfl
    · exact under.trans under'.symm

theorem documentName_eq (className : String) :
    documentName className = (presentName className).map fileCharacter := by
  rw [documentName, presentName]
  split
  · rw [← String.toList_inj, String.toList_map]
    decide
  · rfl

theorem toList_documentName (className : String) :
    (documentName className).toList = (presentName className).toList.map fileCharacter := by
  rw [documentName_eq, String.toList_map]

theorem isKept_of_mem_documentName {className : String} {c : Char}
    (inside : c ∈ (documentName className).toList) : isKept c := by
  rw [toList_documentName] at inside
  obtain ⟨letter, -, rfl⟩ := List.mem_map.mp inside
  exact isKept_fileCharacter letter

theorem documentName_ne_empty (className : String) : documentName className ≠ "" := by
  rw [documentName_eq, ← String.toList_inj.ne, String.toList_map]
  refine mt List.map_eq_nil_iff.mp (mt String.toList_eq_nil_iff.mp ?_)
  rw [presentName]
  split
  · decide
  · next filled => exact mt String.isEmpty_iff.mpr filled

theorem documentName_documentName (className : String) :
    documentName (documentName className) = documentName className := by
  have present : presentName (documentName className) = documentName className :=
    if_neg (mt String.isEmpty_iff.mp (documentName_ne_empty className))
  rw [← String.toList_inj, toList_documentName, present]
  exact (List.map_congr_left fun c inside => fileCharacter_of_isKept (isKept_of_mem_documentName inside)).trans
    (List.map_id _)

/-- Class names share a document if all their characters look the same. -/
theorem documentName_inj {first second : String} :
    documentName first = documentName second ↔
      List.Forall₂ LooksAs (presentName first).toList (presentName second).toList := by
  rw [← String.toList_inj, toList_documentName, toList_documentName, ← List.forall₂_eq_eq_eq,
    List.forall₂_map_left_iff, List.forall₂_map_right_iff]
  simp only [fileCharacter_inj]

theorem Request.isKept_of_mem_fileName {request : Request} {format : Format} {c : Char}
    (inside : c ∈ (request.fileName format).toList) : isKept c := by
  have extension : (Vocabulary.name format).toList.all isKept := by cases format <;> decide +kernel
  rw [fileName, String.toList_append, String.toList_append, List.mem_append, List.mem_append] at inside
  rcases inside with (name | dot) | letter
  · exact isKept_of_mem_documentName name
  · rw [List.mem_singleton.mp dot]
    decide +kernel
  · exact List.all_eq_true.mp extension c letter

end ComponentDocs
