import ComponentDocs.Component.Vocabulary

/-! The law of closed vocabularies: all words are listed, and no two share a spelling. -/
namespace ComponentDocs

open Vocabulary (words name)

/-- A vocabulary that lists all its words, each with a spelling of its own. -/
class LawfulVocabulary (α : Type) [Vocabulary α] : Prop where
  mem_words : ∀ word : α, word ∈ (words : List α)
  distinct : ((words : List α).map name).Nodup

namespace Vocabulary

variable {α : Type} [Vocabulary α] [LawfulVocabulary α]

/-- Any wording that keeps the listed words apart keeps all words apart. -/
theorem wording_inj {wording : α → String} (distinct : ((words : List α).map wording).Nodup)
    {first second : α} : wording first = wording second ↔ first = second := by
  refine ⟨fun same => ?_, congrArg wording⟩
  obtain ⟨index, bound, rfl⟩ := List.getElem_of_mem (LawfulVocabulary.mem_words first)
  obtain ⟨other, bound', rfl⟩ := List.getElem_of_mem (LawfulVocabulary.mem_words second)
  have apart := List.pairwise_iff_getElem.mp (List.pairwise_map.mp distinct)
  rcases Nat.lt_trichotomy index other with before | rfl | behind
  · exact absurd same (apart index other bound bound' before)
  · rfl
  · exact absurd same.symm (apart other index bound' bound behind)

theorem name_inj {first second : α} : name first = name second ↔ first = second :=
  wording_inj LawfulVocabulary.distinct

end Vocabulary

instance : LawfulVocabulary ExpressionLanguageScope where
  mem_words word := by cases word <;> decide
  distinct := by decide

instance : LawfulVocabulary ResourceCardinality where
  mem_words word := by cases word <;> decide
  distinct := by decide

instance : LawfulVocabulary ResourceType where
  mem_words word := by cases word <;> decide
  distinct := by decide

instance : LawfulVocabulary Scope where
  mem_words word := by cases word <;> decide
  distinct := by decide

instance : LawfulVocabulary InputRequirement where
  mem_words word := by cases word <;> decide
  distinct := by decide

instance : LawfulVocabulary SystemResource where
  mem_words word := by cases word <;> decide
  distinct := by decide

instance : LawfulVocabulary SchedulingStrategy where
  mem_words word := by cases word <;> decide
  distinct := by decide

instance : LawfulVocabulary BulletinLevel where
  mem_words word := by cases word <;> decide
  distinct := by decide

instance : LawfulVocabulary RequiredPermission where
  mem_words word := by cases word <;> decide
  distinct := by decide

instance : LawfulVocabulary Category where
  mem_words word := by cases word <;> decide
  distinct := by decide

theorem RequiredPermission.label_inj {first second : RequiredPermission} :
    first.label = second.label ↔ first = second :=
  Vocabulary.wording_inj (by decide)

end ComponentDocs
