import ComponentDocs.Proofs.Snapshot.Insertion

/-! Objects with a gap: a place under one key where a member may be put or left out. -/
namespace ComponentDocs

open Json (Members)

namespace Json

/-- An object but for the member under one key. -/
structure Gap where
  key : String
  before : Members
  after : Members
  fresh : key ∉ (before ++ after).map Prod.fst

namespace Gap

/-- The members with a value under the key, or with none. -/
def fill (gap : Gap) : Option Json → Members
  | none => gap.before ++ gap.after
  | some json => gap.before ++ (gap.key, json) :: gap.after

def filter (gap : Gap) (inClass : String → Bool) : Gap where
  key := gap.key
  before := gap.before.filter fun member => inClass member.1
  after := gap.after.filter fun member => inClass member.1
  fresh := by
    intro inside
    apply gap.fresh
    rw [← List.filter_append] at inside
    exact (List.filter_sublist.map Prod.fst).subset inside

variable (gap : Gap) (json? : Option Json)

theorem values_key : values gap.key (gap.fill json?) = json?.toList := by
  have alone := values_eq_nil_iff.mpr gap.fresh
  rw [values_append, List.append_eq_nil_iff] at alone
  cases json? with
  | none => rw [fill, values_append, alone.1, alone.2]; rfl
  | some json => rw [fill, values_append, values_cons, if_pos rfl, alone.1, alone.2]; rfl

theorem values_other {other : String} (different : other ≠ gap.key) :
    values other (gap.fill json?) = values other (gap.fill none) := by
  cases json? with
  | none => rfl
  | some json => exact Snapshot.values_insert different json

/-- A class of keys that has the key of the gap keeps what is in the gap. -/
theorem filter_fill (inClass : String → Bool) (kept : inClass gap.key = true) :
    ((gap.fill json?).filter fun member => inClass member.1) = (gap.filter inClass).fill json? := by
  cases json? with
  | none => exact List.filter_append ..
  | some json => exact Snapshot.filter_insert inClass kept json

theorem filter_fill_of_not (inClass : String → Bool) (dropped : inClass gap.key = false) :
    ((gap.fill json?).filter fun member => inClass member.1) = (gap.filter inClass).fill none := by
  cases json? with
  | none => exact List.filter_append ..
  | some json => simp [fill, filter, dropped]

theorem without_key : without gap.key (gap.fill json?) = (gap.filter fun key => !(key == gap.key)).fill none := by
  apply gap.filter_fill_of_not json? fun key => !(key == gap.key)
  simp

theorem without_other {other : String} (different : gap.key ≠ other) :
    without other (gap.fill json?) = (gap.filter fun key => !(key == other)).fill json? := by
  apply gap.filter_fill json? fun key => !(key == other)
  simpa using different

end Gap

end Json

end ComponentDocs
