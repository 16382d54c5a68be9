/-! JSON values. An object keeps its members in order. Reading a text for the
members of a record may meet a key twice, so nothing here forbids that;
`Json.put` is how a value comes by distinct keys. -/
namespace ComponentDocs

namespace Json

/-- A number as JSON texts distinguish them: a natural number, the negative of a
positive one, or a binary64 value given by its bits. -/
inductive Number
  | natural (value : Nat)
  | negative (magnitude : Nat)
  | float (bits : UInt64)
deriving DecidableEq

end Json

inductive Json
  | null
  | bool (value : Bool)
  | number (value : Json.Number)
  | string (text : String)
  | array (items : List Json)
  | object (members : List (String × Json))

namespace Json

abbrev Members := List (String × Json)

def ofNat (value : Nat) : Json := .number (.natural value)

def ofStrings (texts : List String) : Json := .array (texts.map .string)

def get? (key : String) : Members → Option Json
  | [] => none
  | (other, value) :: members => if other = key then some value else get? key members

/-- Stores a value under a key. A key that is there already keeps its position. -/
def put (key : String) (value : Json) : Members → Members
  | [] => [(key, value)]
  | (other, old) :: members =>
    if other = key then (key, value) :: members else (other, old) :: put key value members

/-- Members with distinct keys: of equal ones the last value stays, at the first position. -/
def merge (members : Members) : Members :=
  members.foldl (fun merged member => put member.1 member.2 merged) []

theorem get?_put_self (key : String) (value : Json) (members : Members) :
    get? key (put key value members) = some value := by
  induction members with
  | nil => simp [put, get?]
  | cons member members ih =>
    obtain ⟨other, old⟩ := member
    by_cases equal : other = key <;> simp [put, get?, equal, ih]

theorem get?_put_of_ne {key other : String} (ne : other ≠ key) (value : Json)
    (members : Members) : get? other (put key value members) = get? other members := by
  induction members with
  | nil => simp [put, get?, Ne.symm ne]
  | cons member members ih =>
    obtain ⟨first, old⟩ := member
    by_cases equal : first = key
    · simp [put, get?, equal, Ne.symm ne]
    · by_cases same : first = other
      · simp [put, get?, same, ne]
      · simp [put, get?, equal, same, ih]

theorem put_of_not_mem {key : String} {members : Members} (fresh : key ∉ members.map Prod.fst)
    (value : Json) : put key value members = members ++ [(key, value)] := by
  induction members with
  | nil => rfl
  | cons member members ih =>
    obtain ⟨other, old⟩ := member
    simp only [List.map_cons, List.mem_cons, not_or] at fresh
    simp only [put, Ne.symm fresh.1, if_false, ih fresh.2, List.cons_append]

theorem foldl_put_of_nodup (before : Members) {members : Members}
    (distinct : ((before ++ members).map Prod.fst).Nodup) :
    members.foldl (fun merged member => put member.1 member.2 merged) before = before ++ members := by
  induction members generalizing before with
  | nil => simp only [List.foldl_nil, List.append_nil]
  | cons member members ih =>
    have fresh : member.1 ∉ before.map Prod.fst := by
      rw [List.map_append, List.nodup_append] at distinct
      exact fun inside => distinct.2.2 _ inside _ (by simp) rfl
    rw [List.foldl_cons, put_of_not_mem fresh,
      ih _ (by simpa only [List.append_assoc, List.singleton_append] using distinct),
      List.append_assoc, List.singleton_append]

theorem merge_of_nodup {members : Members} (distinct : (members.map Prod.fst).Nodup) :
    merge members = members := by
  simpa only [merge, List.nil_append] using foldl_put_of_nodup [] distinct

end Json

end ComponentDocs
