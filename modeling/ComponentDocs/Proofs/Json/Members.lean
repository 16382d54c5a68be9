import ComponentDocs.Json.Basic
import Mathlib.Data.List.Forall2
import Mathlib.Logic.Relation

/-! Objects as families of values: what the members of an object say under each key, whatever
their order, and what is left when of equal keys only the last one counts. -/
namespace ComponentDocs.Json

/-- The values under a key, in order. -/
def values {α : Type} (key : String) (members : List (String × α)) : List α :=
  (members.filter fun member => member.1 == key).map Prod.snd

/-- The members under all other keys. -/
def without {α : Type} (key : String) (members : List (String × α)) : List (String × α) :=
  members.filter fun member => !(member.1 == key)

section Values

variable {α β : Type} {key other : String}

theorem values_cons (member : String × α) (members : List (String × α)) :
    values key (member :: members) =
      if member.1 = key then member.2 :: values key members else values key members := by
  by_cases same : member.1 = key
  · simp [values, same]
  · simp [values, same]

theorem values_append (first second : List (String × α)) :
    values key (first ++ second) = values key first ++ values key second := by
  simp only [values, List.filter_append, List.map_append]

theorem mem_of_mem_values {value : α} {members : List (String × α)} (inside : value ∈ values key members) :
    (key, value) ∈ members := by
  simp only [values, List.mem_map, List.mem_filter, beq_iff_eq] at inside
  obtain ⟨member, ⟨there, rfl⟩, rfl⟩ := inside
  exact there

theorem mem_values {member : String × α} {members : List (String × α)} (inside : member ∈ members) :
    member.2 ∈ values member.1 members := by
  rw [values, List.mem_map]
  exact ⟨member, List.mem_filter.mpr ⟨inside, beq_self_eq_true _⟩, rfl⟩

theorem values_eq_nil_iff {members : List (String × α)} :
    values key members = [] ↔ key ∉ members.map Prod.fst := by
  simp only [values, List.map_eq_nil_iff, List.filter_eq_nil_iff, beq_iff_eq, List.mem_map, not_exists,
    not_and]

theorem eq_nil_of_values {members : List (String × α)} (empty : ∀ key, values key members = []) : members = [] := by
  cases members with
  | nil => rfl
  | cons member members =>
    have here := empty member.1
    rw [values_cons, if_pos rfl] at here
    cases here

theorem values_filter (inClass : String → Bool) (members : List (String × α)) :
    values key (members.filter fun member => inClass member.1) =
      if inClass key then values key members else [] := by
  induction members with
  | nil => simp [values]
  | cons member members ih =>
    by_cases same : member.1 = key
    · cases kept : inClass key <;> simp [values_cons, same, kept, ih]
    · cases kept : inClass member.1 <;> simp [values_cons, same, kept, ih]

theorem values_without (members : List (String × α)) :
    values other (without key members) = if other = key then [] else values other members := by
  rw [without, values_filter fun name => !(name == key)]
  by_cases same : other = key
  · simp [same]
  · simp [same]

theorem values_map (change : α → β) (members : List (String × α)) :
    values key (members.map fun member => (member.1, change member.2)) =
      (values key members).map change := by
  induction members with
  | nil => rfl
  | cons member members ih =>
    by_cases same : member.1 = key <;> simp [values_cons, same, ih]

/-- Of distinct keys each has one value at most. -/
theorem length_values_le {members : List (String × α)} (distinct : (members.map Prod.fst).Nodup) :
    (values key members).length ≤ 1 := by
  induction members with
  | nil => exact Nat.zero_le 1
  | cons member members ih =>
    rw [List.map_cons, List.nodup_cons] at distinct
    rw [values_cons]
    by_cases same : member.1 = key
    · rw [if_pos same, values_eq_nil_iff.mpr (same ▸ distinct.1)]
      exact Nat.le_refl 1
    · rw [if_neg same]
      exact ih distinct.2

theorem values_perm {first second : List (String × α)} (order : first.Perm second)
    (distinct : (first.map Prod.fst).Nodup) : values key first = values key second := by
  have moved : (values key first).Perm (values key second) := (order.filter _).map _
  have few : (values key first).length ≤ 1 := length_values_le distinct
  rcases known : values key first with _ | ⟨value, _ | ⟨next, rest⟩⟩
  · rw [known] at moved
    exact moved.nil_eq
  · rw [known] at moved
    exact (List.singleton_perm.mp moved).symm ▸ rfl
  · rw [known] at few
    simp only [List.length_cons] at few
    omega

end Values

theorem get?_eq_head? (key : String) (members : Members) : get? key members = (values key members).head? := by
  induction members with
  | nil => rfl
  | cons member members ih =>
    obtain ⟨other, value⟩ := member
    rw [get?, values_cons, ih]
    split <;> rfl

/-- No object inside has two members with one key. -/
inductive Distinct : Json → Prop
  | null : Distinct .null
  | bool (value : Bool) : Distinct (.bool value)
  | number (value : Number) : Distinct (.number value)
  | string (text : String) : Distinct (.string text)
  | array {items : List Json} (each : ∀ item ∈ items, Distinct item) : Distinct (.array items)
  | object {members : Members} (keys : (members.map Prod.fst).Nodup)
      (each : ∀ member ∈ members, Distinct member.2) : Distinct (.object members)

/-- The second value has one object of the first, at any depth, with its members in another
order. -/
inductive Reorders : Json → Json → Prop
  | members {first second : Members} (order : first.Perm second) :
      Reorders (.object first) (.object second)
  | item {first second : Json} (before after : List Json) (inner : Reorders first second) :
      Reorders (.array (before ++ first :: after)) (.array (before ++ second :: after))
  | member {first second : Json} (key : String) (before after : Members)
      (inner : Reorders first second) :
      Reorders (.object (before ++ (key, first) :: after)) (.object (before ++ (key, second) :: after))

/-- Values that differ only in the order of the keys of objects, at any depth. -/
def SameButOrder : Json → Json → Prop := Relation.ReflTransGen Reorders

theorem Reorders.symm {first second : Json} (reorders : Reorders first second) :
    Reorders second first := by
  induction reorders with
  | members order => exact .members order.symm
  | item before after _ ih => exact .item before after ih
  | member key before after _ ih => exact .member key before after ih

theorem Reorders.distinct {first second : Json} (reorders : Reorders first second)
    (distinct : first.Distinct) : second.Distinct := by
  induction reorders with
  | members order =>
    obtain _ | _ | _ | _ | _ | ⟨keys, each⟩ := distinct
    exact .object ((order.map Prod.fst).nodup keys) fun member inside => each member (order.mem_iff.mpr inside)
  | item before after _ ih =>
    obtain _ | _ | _ | _ | each | _ := distinct
    simp only [List.forall_mem_append, List.forall_mem_cons] at each
    refine .array ?_
    simp only [List.forall_mem_append, List.forall_mem_cons]
    exact ⟨each.1, ih each.2.1, each.2.2⟩
  | member key before after _ ih =>
    obtain _ | _ | _ | _ | _ | ⟨keys, each⟩ := distinct
    simp only [List.forall_mem_append, List.forall_mem_cons] at each
    refine .object ?_ ?_
    · simpa only [List.map_append, List.map_cons] using keys
    · simp only [List.forall_mem_append, List.forall_mem_cons]
      exact ⟨each.1, ih each.2.1, each.2.2⟩

/-- The second value has, under each key of each object, no more than the last of the values
that the first has there. -/
inductive Settles : Json → Json → Prop
  | null : Settles .null .null
  | bool (value : Bool) : Settles (.bool value) (.bool value)
  | number (value : Number) : Settles (.number value) (.number value)
  | string (text : String) : Settles (.string text) (.string text)
  | array {first second : List Json} (each : List.Forall₂ Settles first second) :
      Settles (.array first) (.array second)
  | object {first second : Members}
      (each : ∀ key, List.Forall₂ Settles (values key first).getLast?.toList (values key second)) :
      Settles (.object first) (.object second)

/-- Under each key the second members have no more than the last value of the first ones. -/
def MembersSettle (first second : Members) : Prop :=
  ∀ key, List.Forall₂ Settles (values key first).getLast?.toList (values key second)

theorem MembersSettle.nil {members : Members} (settle : MembersSettle [] members) : members = [] :=
  eq_nil_of_values fun key => List.forall₂_nil_left_iff.mp (settle key)

theorem MembersSettle.singleton {key : String} {json : Json} {members : Members}
    (settle : MembersSettle [(key, json)] members) : ∃ json', Settles json json' ∧ members = [(key, json')] := by
  have each (other : String) : List.Forall₂ Settles (if key = other then [json] else []) (values other members) := by
    have here := settle other
    rw [values_cons] at here
    split at here
    · next same => rwa [if_pos same]
    · next different => rwa [if_neg different]
  cases members with
  | nil =>
    have here := each key
    rw [if_pos rfl] at here
    cases here
  | cons member members =>
    obtain ⟨first, json'⟩ := member
    have here := each first
    rw [values_cons, if_pos rfl] at here
    by_cases same : key = first
    · subst same
      rw [if_pos rfl] at here
      obtain ⟨settles, alone⟩ := List.forall₂_cons.mp here
      refine ⟨json', settles, ?_⟩
      have rest : members = [] := by
        refine eq_nil_of_values fun other => ?_
        have there := each other
        rw [values_cons] at there
        by_cases again : key = other
        · subst again
          exact List.forall₂_nil_left_iff.mp alone
        · rw [if_neg again, if_neg again] at there
          exact List.forall₂_nil_left_iff.mp there
      rw [rest]
    · rw [if_neg same] at here
      cases here

theorem MembersSettle.filter {first second : Members} (settle : MembersSettle first second)
    (inClass : String → Bool) :
    MembersSettle (first.filter fun member => inClass member.1) (second.filter fun member => inClass member.1) := by
  intro key
  rw [values_filter, values_filter]
  cases inClass key with
  | true => exact settle key
  | false => exact .nil

theorem toList_getLast? {α : Type} {items : List α} (few : items.length ≤ 1) :
    items.getLast?.toList = items := by
  rcases items with _ | ⟨item, _ | ⟨next, rest⟩⟩
  · rfl
  · rfl
  · simp only [List.length_cons] at few
    omega

theorem Settles.refl {json : Json} (distinct : json.Distinct) : Settles json json := by
  induction distinct with
  | null => exact .null
  | bool value => exact .bool value
  | number value => exact .number value
  | string text => exact .string text
  | array _ ih => exact .array (List.forall₂_same.mpr ih)
  | object keys _ ih =>
    refine .object fun key => ?_
    rw [toList_getLast? (length_values_le keys), List.forall₂_same]
    exact fun value inside => ih (key, value) (mem_of_mem_values inside)

theorem Reorders.settles {first second : Json} (reorders : Reorders first second)
    (distinct : first.Distinct) : Settles first second := by
  induction reorders with
  | members order =>
    obtain _ | _ | _ | _ | _ | ⟨keys, each⟩ := distinct
    refine .object fun key => ?_
    rw [← values_perm order keys, toList_getLast? (length_values_le keys), List.forall₂_same]
    exact fun value inside => .refl (each (key, value) (mem_of_mem_values inside))
  | @item first second before after _ ih =>
    obtain _ | _ | _ | _ | each | _ := distinct
    simp only [List.forall_mem_append, List.forall_mem_cons] at each
    have same (items : List Json) (each : ∀ item ∈ items, item.Distinct) :
        List.Forall₂ Settles items items := List.forall₂_same.mpr fun item inside => .refl (each item inside)
    exact .array (List.rel_append (same before each.1) (.cons (ih each.2.1) (same after each.2.2)))
  | @member first second key before after _ ih =>
    obtain _ | _ | _ | _ | _ | ⟨keys, each⟩ := distinct
    simp only [List.forall_mem_append, List.forall_mem_cons] at each
    have same (other : String) (members : Members) (each : ∀ member ∈ members, member.2.Distinct) :
        List.Forall₂ Settles (values other members) (values other members) :=
      List.forall₂_same.mpr fun value inside => .refl (each (other, value) (mem_of_mem_values inside))
    refine .object fun other => ?_
    rw [toList_getLast? (length_values_le keys), values_append, values_append, values_cons, values_cons]
    refine List.rel_append (same other before each.1) ?_
    split
    · exact .cons (ih each.2.1) (same other after each.2.2)
    · exact same other after each.2.2

end ComponentDocs.Json
