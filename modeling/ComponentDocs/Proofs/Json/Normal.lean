import ComponentDocs.Proofs.Json.Members
import ComponentDocs.Proofs.Json.Nesting
import ComponentDocs.Proofs.Outcomes

/-! Reading a text with all members of its objects, and reading it with one member for each key.
The second comes to the normal form of the first, fault by fault. -/
namespace ComponentDocs.Json

mutual

/-- The value with one member for each key in all objects: of equal keys the last value stays,
at the first position. -/
def normal : Json → Json
  | .null => .null
  | .bool value => .bool value
  | .number value => .number value
  | .string text => .string text
  | .array items => .array (normalItems items)
  | .object members => .object (merge (normalMembers members))

def normalItems : List Json → List Json
  | [] => []
  | item :: items => item.normal :: normalItems items

def normalMembers : List (String × Json) → List (String × Json)
  | [] => []
  | (key, value) :: members => (key, value.normal) :: normalMembers members

end

theorem normalItems_eq_map (items : List Json) : normalItems items = items.map normal := by
  induction items with
  | nil => rfl
  | cons item items ih => rw [normalItems, ih, List.map_cons]

theorem normalMembers_eq_map (members : Members) :
    normalMembers members = members.map fun member => (member.1, member.2.normal) := by
  induction members with
  | nil => rfl
  | cons member members ih => rw [normalMembers, ih, List.map_cons]

theorem normal_of_distinct {json : Json} (distinct : json.Distinct) : json.normal = json := by
  induction distinct with
  | null | bool | number | string => rfl
  | array _ ih =>
    rw [normal, normalItems_eq_map, List.map_congr_left ih, List.map_id']
  | @object members keys _ ih =>
    have same : normalMembers members = members := by
      rw [normalMembers_eq_map]
      conv_rhs => rw [← List.map_id' members]
      exact List.map_congr_left fun member inside => by rw [ih member inside]
    rw [normal, same, merge_of_nodup keys]

section Merge

variable {key other : String}

theorem names_put (key : String) (value : Json) (members : Members) :
    (put key value members).map Prod.fst =
      if key ∈ members.map Prod.fst then members.map Prod.fst else members.map Prod.fst ++ [key] := by
  induction members with
  | nil => rfl
  | cons member members ih =>
    obtain ⟨first, old⟩ := member
    by_cases same : first = key
    · simp [put, same]
    · rw [put, if_neg same, List.map_cons, List.map_cons, ih]
      by_cases inside : key ∈ members.map Prod.fst
      · rw [if_pos inside, if_pos (List.mem_cons_of_mem _ inside)]
      · have absent : key ∉ first :: members.map Prod.fst := by
          rw [List.mem_cons, not_or]
          exact ⟨Ne.symm same, inside⟩
        rw [if_neg inside, if_neg absent, List.cons_append]

theorem nodup_put {value : Json} {members : Members} (distinct : (members.map Prod.fst).Nodup) :
    ((put key value members).map Prod.fst).Nodup := by
  rw [names_put]
  split
  · exact distinct
  · next fresh =>
    rw [List.nodup_append]
    refine ⟨distinct, List.pairwise_singleton _ key, ?_⟩
    intro name inside other single
    rw [List.mem_singleton] at single
    rintro rfl
    exact fresh (single ▸ inside)

theorem nodup_merge (members : Members) : ((merge members).map Prod.fst).Nodup := by
  suffices general : ∀ merged : Members, (merged.map Prod.fst).Nodup →
      ((members.foldl (fun merged member => put member.1 member.2 merged) merged).map Prod.fst).Nodup from
    general [] List.nodup_nil
  induction members with
  | nil => exact fun merged => id
  | cons member members ih => exact fun merged distinct => ih _ (nodup_put distinct)

theorem get?_merge (key : String) (members : Members) :
    get? key (merge members) = (values key members).getLast? := by
  suffices general : ∀ merged : Members,
      get? key (members.foldl (fun merged member => put member.1 member.2 merged) merged) =
        ((values key members).getLast?).or (get? key merged) from
    (general []).trans Option.or_none
  induction members with
  | nil => exact fun merged => rfl
  | cons member members ih =>
    intro merged
    rw [List.foldl_cons, ih, values_cons]
    by_cases same : member.1 = key
    · subst same
      rw [if_pos rfl, get?_put_self, List.getLast?_cons]
      cases (values member.1 members).getLast? <;> rfl
    · rw [if_neg same, get?_put_of_ne (Ne.symm same)]

theorem values_merge (key : String) (members : Members) :
    values key (merge members) = (values key members).getLast?.toList := by
  have few : (values key (merge members)).length ≤ 1 := length_values_le (nodup_merge members)
  rw [← get?_merge, get?_eq_head?]
  rcases known : values key (merge members) with _ | ⟨value, _ | ⟨second, rest⟩⟩
  · rfl
  · rfl
  · rw [known] at few
    simp only [List.length_cons] at few
    omega

end Merge

mutual

theorem settles_normal : (json : Json) → Settles json json.normal
  | .null => .null
  | .bool value => .bool value
  | .number value => .number value
  | .string text => .string text
  | .array items => .array (settles_normalItems items)
  | .object members => by
    refine .object fun key => ?_
    rw [values_merge, normalMembers_eq_map, values_map, List.getLast?_map]
    cases last : (values key members).getLast? with
    | none => exact .nil
    | some value =>
      have inside := mem_of_mem_values (List.mem_of_getLast? last)
      exact .cons (settles_normalMembers members (key, value) inside) .nil

theorem settles_normalItems : (items : List Json) → List.Forall₂ Settles items (normalItems items)
  | [] => .nil
  | item :: items => .cons (settles_normal item) (settles_normalItems items)

theorem settles_normalMembers : (members : List (String × Json)) →
    ∀ member ∈ members, Settles member.2 member.2.normal
  | [] => nofun
  | (_, value) :: members =>
    List.forall_mem_cons.mpr ⟨settles_normal value, settles_normalMembers members⟩

end

section Fold

variable {ε α β : Type} {raise : Fault → ε} (change : α → β)

theorem foldItems_map {item : α → Cursor → Except ε (α × Cursor)} {item' : β → Cursor → Except ε (β × Cursor)}
    (agree : ∀ soFar cursor, item' (change soFar) cursor = (item soFar cursor).map (Prod.map change id))
    (steps : Nat) (first : Bool) (soFar : α) (cursor : Cursor) :
    foldItems raise item' steps first (change soFar) cursor =
      (foldItems raise item steps first soFar cursor).map (Prod.map change id) := by
  induction steps generalizing first soFar cursor with
  | zero => rfl
  | succ steps ih =>
    rw [foldItems, foldItems]
    rcases nextItem first cursor with fault | ⟨_ | _, next⟩
    · rfl
    · rfl
    · simp only [agree]
      rcases item soFar next with error | ⟨longer, behind⟩
      · rfl
      · exact ih false longer behind

theorem foldMembers_map {member : String → α → Cursor → Except ε (α × Cursor)}
    {member' : String → β → Cursor → Except ε (β × Cursor)}
    (agree : ∀ key soFar cursor,
      member' key (change soFar) cursor = (member key soFar cursor).map (Prod.map change id))
    (steps : Nat) (first : Bool) (soFar : α) (cursor : Cursor) :
    foldMembers raise member' steps first (change soFar) cursor =
      (foldMembers raise member steps first soFar cursor).map (Prod.map change id) := by
  induction steps generalizing first soFar cursor with
  | zero => rfl
  | succ steps ih =>
    rw [foldMembers, foldMembers]
    rcases nextKey first cursor with fault | ⟨_ | key, next⟩
    · rfl
    · rfl
    · simp only [agree]
      rcases member key soFar next with error | ⟨longer, behind⟩
      · rfl
      · exact ih false longer behind

theorem listOf_map {item : α → Cursor → Except ε (α × Cursor)} {item' : β → Cursor → Except ε (β × Cursor)}
    (agree : ∀ soFar cursor, item' (change soFar) cursor = (item soFar cursor).map (Prod.map change id))
    (start : α) (cursor : Cursor) :
    listOf raise item' (change start) cursor = (listOf raise item start cursor).map (Prod.map change id) := by
  rw [listOf, listOf, foldItems_map change agree]
  rcases foldItems raise item (cursor.rest.length + 1) true start cursor with error | ⟨items, last⟩
  · rfl
  · simp only [Except.map, Prod.map, id]
    cases endList last <;> rfl

end Fold

theorem scalar?_normal {cursor : Cursor} {outcome : Except Fault (Json × Cursor)}
    (begun : scalar? cursor = some outcome) : outcome.map (Prod.map normal id) = outcome := by
  have literal (rest : List Char) (value : Json) (plain : value.normal = value) (cursor : Cursor) :
      (literalValue rest value cursor).map (Prod.map normal id) = literalValue rest value cursor := by
    rw [literalValue]
    cases readLiteral rest cursor.next with
    | error fault => rfl
    | ok behind => simp only [Except.map, Prod.map, plain, id]
  have number (negative : Bool) (cursor : Cursor) :
      (numberValue negative cursor).map (Prod.map normal id) = numberValue negative cursor := by
    rw [numberValue]
    cases readNumber negative cursor <;> rfl
  rw [scalar?] at begun
  split at begun
  · cases begun
    exact literal _ _ rfl cursor
  · cases begun
    exact literal _ _ rfl cursor
  · cases begun
    exact literal _ _ rfl cursor
  · cases begun
    exact number true _
  · cases begun
    cases readString cursor.next <;> rfl
  · split at begun
    · cases begun
      exact number false cursor
    · cases begun
  · cases begun

theorem addItem_merge {levels : Nat}
    (agree : ∀ cursor, readValue merge levels cursor = (readValue id levels cursor).map (Prod.map normal id))
    (items : List Json) (cursor : Cursor) :
    addItem merge levels (items.map normal) cursor =
      (addItem id levels items cursor).map (Prod.map (List.map normal) id) := by
  rw [addItem, addItem, agree]
  cases readValue id levels cursor <;> rfl

theorem addMember_merge {levels : Nat}
    (agree : ∀ cursor, readValue merge levels cursor = (readValue id levels cursor).map (Prod.map normal id))
    (key : String) (members : Members) (cursor : Cursor) :
    addMember merge levels key (normalMembers members) cursor =
      (addMember id levels key members cursor).map (Prod.map normalMembers id) := by
  rw [addMember, addMember]
  cases readColon cursor with
  | error fault => rfl
  | ok behind =>
    simp only [agree]
    cases readValue id levels behind <;> rfl

/-- A reader that keeps the last of equal keys comes to the normal form of what a reader comes
to that keeps all members. -/
theorem readValue_merge (levels : Nat) (cursor : Cursor) :
    readValue merge levels cursor = (readValue id levels cursor).map (Prod.map normal id) := by
  induction levels generalizing cursor with
  | zero =>
    rw [readValue, readValue]
    cases begun : scalar? cursor.skipBlank with
    | some outcome => exact (scalar?_normal begun).symm
    | none =>
      simp only
      split <;> rfl
  | succ levels ih =>
    by_cases bracket : ∃ rest, cursor.skipBlank.rest = '[' :: rest
    · obtain ⟨rest, begun⟩ := bracket
      have read : listOf id (addItem merge levels) [] cursor.skipBlank.next =
          (listOf id (addItem id levels) [] cursor.skipBlank.next).map (Prod.map (List.map normal) id) :=
        listOf_map (List.map normal) (addItem_merge ih) [] _
      rw [readValue_of_bracket begun, readValue_of_bracket begun, read]
      rcases listOf id (addItem id levels) [] cursor.skipBlank.next with fault | ⟨items, behind⟩
      · rfl
      · simp only [Except.map, Prod.map, normal, normalItems_eq_map, List.map_reverse, id]
    by_cases brace : ∃ rest, cursor.skipBlank.rest = '{' :: rest
    · obtain ⟨rest, begun⟩ := brace
      have read : membersOf id (addMember merge levels) [] cursor.skipBlank.next =
          (membersOf id (addMember id levels) [] cursor.skipBlank.next).map (Prod.map normalMembers id) :=
        foldMembers_map normalMembers (addMember_merge ih) _ _ [] _
      rw [readValue_of_brace begun, readValue_of_brace begun, read]
      rcases membersOf id (addMember id levels) [] cursor.skipBlank.next with fault | ⟨members, last⟩
      · rfl
      · simp only [Except.map, Prod.map, id]
        cases endObject last with
        | error fault => rfl
        | ok behind => simp only [normal, normalMembers_eq_map, List.map_reverse]
    rw [readValue, readValue]
    cases begun : scalar? cursor.skipBlank with
    | some outcome => exact (scalar?_normal begun).symm
    | none =>
      simp only
      split
      · rfl
      · next rest known => exact absurd ⟨rest, known⟩ bracket
      · next rest known => exact absurd ⟨rest, known⟩ brace
      · rfl

/-- The value of a whole text, with all members of its objects. -/
def parseAll (text : String) : Except Fault Json := do
  let (result, cursor) ← readValue id nestingLimit (.ofText text)
  finish cursor
  return result

theorem parse_eq (text : String) : parse text = (parseAll text).map normal := by
  rw [parse, parseAll, readValue_merge]
  rcases readValue id nestingLimit (.ofText text) with fault | ⟨json, behind⟩
  · rfl
  · simp only [Except.map, Prod.map, bind, Except.bind, id]
    cases finish behind <;> rfl

end ComponentDocs.Json
