import ComponentDocs.Proofs.Snapshot.Keeping
import ComponentDocs.Snapshot.Shapes

/-! Keys that nothing reads. An object that is read as a record has the keys that count for it;
any other key may be put into it, with any value, wherever in a snapshot the object stands. -/
namespace ComponentDocs

open Json (Members)

namespace Snapshot

/-- The case of a tagged object, and the members beside its tag. -/
def Cases.found? {α : Type} (cases : Cases α) (tag : String) (members : Members) :
    Option (String × Members) :=
  (caseOfMembers .setAside tag cases.names members).toOption

mutual

/-- The keys that count in an object, if the shape reads it as a record. With a tag these
include the keys of the case that it names. -/
def Shape.keys? : {α : Type} → Shape α → Members → Option (List String)
  | _, .optional shape, members | _, .convert _ shape, members => shape.keys? members
  | _, .record _ fields, _ => some fields.names
  | _, .kinds _ tag cases, members =>
    match cases.found? tag members with
    | some (case, others) => (cases.keys? case others).map (tag :: ·)
    | none => none
  | _, .extended _ fields tag cases, members =>
    match cases.found? tag (members.filter fun member => !fields.has member.1) with
    | some (case, others) => (cases.keys? case others).map fun keys => fields.names ++ tag :: keys
    | none => none
  | _, _, _ => none

def Cases.keys? : {α : Type} → Cases α → String → Members → Option (List String)
  | _, .nil, _, _ => none
  | _, .plain name _ more, case, others => if case = name then some [] else more.keys? case others
  | _, .shaped name shape _ more, case, others =>
    if case = name then shape.keys? others else more.keys? case others

end

mutual

def Shape.member? : {α : Type} → Shape α → Members → String → Option ((β : Type) × Shape β)
  | _, .optional shape, members, key | _, .convert _ shape, members, key => shape.member? members key
  | _, .table shape, _, _ => some ⟨_, shape⟩
  | _, .record _ fields, _, key => fields.shape? key
  | _, .kinds _ tag cases, members, key =>
    match cases.found? tag members with
    | some (case, others) => if key = tag then none else cases.member? case others key
    | none => none
  | _, .extended _ fields tag cases, members, key =>
    match fields.shape? key with
    | some field => some field
    | none =>
      match cases.found? tag (members.filter fun member => !fields.has member.1) with
      | some (case, others) => if key = tag then none else cases.member? case others key
      | none => none
  | _, _, _, _ => none

def Cases.member? : {α : Type} → Cases α → String → Members → String → Option ((β : Type) × Shape β)
  | _, .nil, _, _, _ => none
  | _, .plain name _ more, case, others, key => if case = name then none else more.member? case others key
  | _, .shaped name shape _ more, case, others, key =>
    if case = name then shape.member? others key else more.member? case others key

end

def Shape.item? : {α : Type} → Shape α → Nat → Option ((β : Type) × Shape β)
  | _, .optional shape, position | _, .convert _ shape, position => shape.item? position
  | _, .list shape, _ => some ⟨_, shape⟩
  | _, .record _ fields, position => fields.item? position
  | _, _, _ => none

/-- The second value has one member more: an object inside that is read as a record has it,
under a key that does not count there. -/
inductive Shape.Adds : {α : Type} → Shape α → Json → Json → Prop
  | here {α : Type} {shape : Shape α} {before after : Members} {keys : List String} {key : String}
      (value : Json) (record : shape.keys? (before ++ after) = some keys) (unknown : key ∉ keys) :
      Adds shape (.object (before ++ after)) (.object (before ++ (key, value) :: after))
  | member {α β : Type} {shape : Shape α} {inner : Shape β} {before after : Members} {key : String}
      {first second : Json}
      (read : shape.member? (before ++ (key, first) :: after) key = some ⟨β, inner⟩)
      (adds : Adds inner first second) :
      Adds shape (.object (before ++ (key, first) :: after)) (.object (before ++ (key, second) :: after))
  | item {α β : Type} {shape : Shape α} {inner : Shape β} {before after : List Json}
      {first second : Json} (read : shape.item? before.length = some ⟨β, inner⟩)
      (adds : Adds inner first second) :
      Adds shape (.array (before ++ first :: after)) (.array (before ++ second :: after))

theorem forall₂_keeps_refl {α : Type} (shape : Shape α) (items : List Json) :
    List.Forall₂ shape.Keeps items items := List.forall₂_same.mpr fun item _ => .refl shape item

section Values

variable {before after : Members} {key other : String}

theorem values_insert (different : other ≠ key) (json : Json) :
    Json.values other (before ++ (key, json) :: after) = Json.values other (before ++ after) := by
  rw [Json.values_append, Json.values_cons, if_neg (Ne.symm different), Json.values_append]

theorem values_replace (different : other ≠ key) (json json' : Json) :
    Json.values other (before ++ (key, json') :: after) = Json.values other (before ++ (key, json) :: after) := by
  rw [values_insert different, values_insert different]

theorem filter_insert (inClass : String → Bool) (kept : inClass key) (json : Json) :
    ((before ++ (key, json) :: after).filter fun member => inClass member.1) =
      (before.filter fun member => inClass member.1) ++ (key, json) :: after.filter fun member => inClass member.1 := by
  rw [List.filter_append, List.filter_cons, if_pos kept]

end Values

namespace Fields

variable {σ β γ : Type} {fields : Fields σ β} {first second : Members}

theorem mem_names_of_shape? {key : String} {field : (α : Type) × Shape α}
    (known : fields.shape? key = some field) : key ∈ fields.names := by
  rw [← has_iff_mem_names, ← isSome_shape?, known]
  rfl

/-- What is under other keys makes no difference to a record. -/
theorem keeps_of_values (same : ∀ key ∈ fields.names, Json.values key second = Json.values key first) :
    fields.Keeps first second := by
  intro key α shape known _
  rw [same key (mem_names_of_shape? known)]
  exact forall₂_keeps_refl shape _

theorem keeps_member {before after : Members} {key : String} {inner : Shape γ} {json json' : Json}
    (known : fields.shape? key = some ⟨γ, inner⟩) (keeps : inner.Keeps json json') :
    fields.Keeps (before ++ (key, json) :: after) (before ++ (key, json') :: after) := by
  intro other α shape field _
  rw [Json.values_append, Json.values_append, Json.values_cons, Json.values_cons]
  refine List.rel_append (forall₂_keeps_refl shape _) ?_
  by_cases same : key = other
  · subst same
    rw [known] at field
    cases field
    rw [if_pos rfl, if_pos rfl]
    exact .cons keeps (forall₂_keeps_refl inner _)
  · rw [if_neg same, if_neg same]
    exact forall₂_keeps_refl shape _

theorem has_of_shape? {key : String} {field : (α : Type) × Shape α} (known : fields.shape? key = some field) :
    (!fields.has key) = false := by
  rw [← isSome_shape?, known]
  rfl

theorem has_of_foreign {key : String} (foreign : fields.shape? key = none) : (!fields.has key) = true := by
  rw [← isSome_shape?, foreign]
  rfl

/-- A member that is no field makes no difference to the fields. -/
theorem keeps_foreign {before after : Members} {key : String} (foreign : fields.shape? key = none)
    (json json' : Json) : fields.Keeps (before ++ (key, json) :: after) (before ++ (key, json') :: after) := by
  refine keeps_of_values fun name inside => values_replace ?_ json json'
  rintro rfl
  have other := has_of_foreign foreign
  rw [← has_iff_mem_names] at inside
  simp [inside] at other

theorem beside_field {before after : Members} {key : String} {field : (α : Type) × Shape α}
    (known : fields.shape? key = some field) (json json' : Json) :
    ((before ++ (key, json') :: after).filter fun member => !fields.has member.1) =
      (before ++ (key, json) :: after).filter fun member => !fields.has member.1 := by
  simp only [List.filter_append, List.filter_cons, has_of_shape? known, Bool.false_eq_true, if_false]

end Fields

namespace Cases

variable {α : Type} {cases : Cases α} {tag case : String} {first second others : Members}

/-- Values set aside are read more leniently, but to the same case. -/
theorem tagOfJson_setAside {origin : Origin} {names : List String} {json : Json}
    (named : tagOfJson origin names json = .ok case) : tagOfJson .setAside names json = .ok case := by
  cases json with
  | string => exact named
  | number value =>
    cases value with
    | natural position =>
      cases origin with
      | parsed => cases named
      | setAside => exact named
    | negative | float => cases named
  | null | bool | array | object => cases named

theorem found?_of_ok {origin : Origin} (named : caseOfMembers origin tag cases.names first = .ok (case, others)) :
    cases.found? tag first = some (case, others) := by
  obtain ⟨json, only, isCase, rest⟩ := caseOfMembers_eq_ok_iff.mp named
  rw [found?, toOption_eq_some_iff, caseOfMembers_eq_ok_iff]
  exact ⟨json, only, tagOfJson_setAside isCase, rest⟩

/-- The same tag names the same case, so it is up to the shape of that case what is kept. -/
theorem keepsCase_of_found (tagged : Json.values tag second = Json.values tag first)
    (found : cases.found? tag first = some (case, others))
    (inner : ∀ β (shape : Shape β), cases.shape? case = some ⟨β, shape⟩ →
      shape.Keeps (.object others) (.object (Json.without tag second))) :
    cases.KeepsCase tag first second := by
  intro origin case' others' named
  have same := found?_of_ok named
  rw [found] at same
  cases same
  obtain ⟨json, only, isCase, -⟩ := caseOfMembers_eq_ok_iff.mp named
  exact ⟨_, caseOfMembers_eq_ok_iff.mpr ⟨json, tagged.trans only, isCase, rfl⟩, inner⟩

theorem KeepsCase.refl (cases : Cases α) (tag : String) (members : Members) :
    cases.KeepsCase tag members members :=
  fun _ _ others named => ⟨others, named, fun _ shape _ => .refl shape _⟩

theorem without_of_found (found : cases.found? tag first = some (case, others)) :
    Json.without tag first = others := by
  rw [found?, toOption_eq_some_iff, caseOfMembers_eq_ok_iff] at found
  obtain ⟨-, -, -, rest⟩ := found
  exact rest

theorem values_beside (found : cases.found? tag first = some (case, others)) {key : String}
    (same : Json.values key second = Json.values key first) :
    Json.values key (Json.without tag second) = Json.values key others := by
  rw [← without_of_found found, Json.values_without, Json.values_without, same]

theorem without_insert {before after : Members} {key : String} (untagged : key ≠ tag) (json : Json) :
    Json.without tag (before ++ (key, json) :: after) =
      Json.without tag before ++ (key, json) :: Json.without tag after :=
  filter_insert (fun name => !(name == tag)) (by simpa using untagged) json

theorem others_of_found_insert {before after : Members} {key : String} {json : Json} (untagged : key ≠ tag)
    (found : cases.found? tag (before ++ (key, json) :: after) = some (case, others)) :
    others = Json.without tag before ++ (key, json) :: Json.without tag after :=
  (without_of_found found).symm.trans (without_insert untagged json)

/-- Beside the tag it is up to the shape of the case whether another value is kept. -/
theorem keepsCase_replace {before after : Members} {key : String} {json json' : Json} (untagged : key ≠ tag)
    (found : cases.found? tag (before ++ (key, json) :: after) = some (case, others))
    (inner : ∀ β (shape : Shape β), cases.shape? case = some ⟨β, shape⟩ →
      shape.Keeps (.object (Json.without tag before ++ (key, json) :: Json.without tag after))
        (.object (Json.without tag before ++ (key, json') :: Json.without tag after))) :
    cases.KeepsCase tag (before ++ (key, json) :: after) (before ++ (key, json') :: after) := by
  obtain rfl := others_of_found_insert untagged found
  refine keepsCase_of_found (values_replace (Ne.symm untagged) json json') found ?_
  rw [without_insert untagged]
  exact inner

end Cases

mutual

/-- What is under keys that do not count makes no difference. -/
theorem Shape.keeps_others : {α : Type} → (shape : Shape α) → {first second : Members} → {keys : List String} →
    shape.keys? first = some keys → (∀ key ∈ keys, Json.values key second = Json.values key first) →
    shape.Keeps (.object first) (.object second)
  | _, .optional shape, _, _, _, record, same => .optional nofun nofun (shape.keeps_others record same)
  | _, .convert build shape, _, _, _, record, same => .convert build (shape.keeps_others record same)
  | _, .record name fields, _, _, _, record, same => by
    cases record
    exact .record (Fields.keeps_of_values same)
  | _, .kinds name tag cases, first, second, keys, record, same => by
    rw [Shape.keys?] at record
    split at record
    · next case others found =>
      obtain ⟨inner, counted, rfl⟩ := Option.map_eq_some_iff.mp record
      refine .kinds (Cases.keepsCase_of_found (same tag List.mem_cons_self) found ?_)
      exact cases.keeps_others counted fun key inside =>
        Cases.values_beside found (same key (List.mem_cons_of_mem _ inside))
    · cases record
  | _, .extended name fields tag cases, first, second, keys, record, same => by
    rw [Shape.keys?] at record
    split at record
    · next case others found =>
      obtain ⟨inner, counted, rfl⟩ := Option.map_eq_some_iff.mp record
      have beside (key : String) (inside : key ∈ tag :: inner) :
          Json.values key (second.filter fun member => !fields.has member.1) =
            Json.values key (first.filter fun member => !fields.has member.1) := by
        rw [Json.values_filter fun name => !fields.has name, Json.values_filter fun name => !fields.has name,
          same key (List.mem_append_right _ inside)]
      refine .extended (Fields.keeps_of_values fun key inside => same key (List.mem_append_left _ inside)) ?_
      refine Cases.keepsCase_of_found (beside tag List.mem_cons_self) found ?_
      exact cases.keeps_others counted fun key inside =>
        Cases.values_beside found (beside key (List.mem_cons_of_mem _ inside))
    · cases record

theorem Cases.keeps_others : {α : Type} → (cases : Cases α) → {case : String} → {first second : Members} →
    {keys : List String} → cases.keys? case first = some keys →
    (∀ key ∈ keys, Json.values key second = Json.values key first) →
    ∀ β (shape : Shape β), cases.shape? case = some ⟨β, shape⟩ → shape.Keeps (.object first) (.object second)
  | _, .nil, _, _, _, _, record, _, _, _, _ => by cases record
  | _, .plain name _ more, case, _, _, _, record, same, β, shape, known => by
    rw [Cases.keys?] at record
    rw [Cases.shape?] at known
    by_cases here : case = name
    · rw [if_pos here] at known
      cases known
    · rw [if_neg here] at record known
      exact more.keeps_others record same β shape known
  | _, .shaped name own _ more, case, _, _, _, record, same, β, shape, known => by
    rw [Cases.keys?] at record
    rw [Cases.shape?] at known
    by_cases here : case = name
    · rw [if_pos here] at record known
      cases known
      exact own.keeps_others record same
    · rw [if_neg here] at record known
      exact more.keeps_others record same β shape known

end

mutual

/-- A member that its own shape keeps is kept. -/
theorem Shape.keeps_member : {α : Type} → (shape : Shape α) → {before after : Members} → {key : String} →
    {json json' : Json} → {γ : Type} → {inner : Shape γ} →
    shape.member? (before ++ (key, json) :: after) key = some ⟨γ, inner⟩ → inner.Keeps json json' →
    shape.Keeps (.object (before ++ (key, json) :: after)) (.object (before ++ (key, json') :: after))
  | _, .optional shape, _, _, _, _, _, _, _, read, keeps => .optional nofun nofun (shape.keeps_member read keeps)
  | _, .convert build shape, _, _, _, _, _, _, _, read, keeps => .convert build (shape.keeps_member read keeps)
  | _, .table shape, before, after, key, json, json', _, _, read, keeps => by
    cases read
    have refl (members : Members) : List.Forall₂
        (fun before after => after.1 = before.1 ∧ shape.Keeps before.2 after.2) members members :=
      List.forall₂_same.mpr fun member _ => ⟨rfl, .refl shape _⟩
    exact .table (List.rel_append (refl before) (.cons ⟨rfl, keeps⟩ (refl after)))
  | _, .record name fields, _, _, _, _, _, _, _, read, keeps => .record (Fields.keeps_member read keeps)
  | _, .kinds name tag cases, before, after, key, json, json', _, inner, read, keeps => by
    rw [Shape.member?] at read
    split at read
    · next case others found =>
      by_cases tagged : key = tag
      · rw [if_pos tagged] at read
        cases read
      · rw [if_neg tagged] at read
        obtain rfl := Cases.others_of_found_insert tagged found
        exact .kinds (Cases.keepsCase_replace tagged found (cases.keeps_member read keeps))
    · cases read
  | _, .extended name fields tag cases, before, after, key, json, json', _, inner, read, keeps => by
    rw [Shape.member?] at read
    split at read
    · next field known =>
      cases read
      refine .extended (Fields.keeps_member known keeps) ?_
      -- The kind is read from the members beside the fields, and those are the same.
      rw [Fields.beside_field known json json']
      exact .refl cases tag _
    · next foreign =>
      have other := Fields.has_of_foreign foreign
      split at read
      · next case others found =>
        by_cases tagged : key = tag
        · rw [if_pos tagged] at read
          cases read
        · rw [if_neg tagged] at read
          refine .extended (Fields.keeps_foreign foreign json json') ?_
          rw [filter_insert (fun name => !fields.has name) other] at found ⊢
          rw [filter_insert (fun name => !fields.has name) other]
          obtain rfl := Cases.others_of_found_insert tagged found
          exact Cases.keepsCase_replace tagged found (cases.keeps_member read keeps)
      · cases read

theorem Cases.keeps_member : {α : Type} → (cases : Cases α) → {case : String} → {before after : Members} →
    {key : String} → {json json' : Json} → {γ : Type} → {inner : Shape γ} →
    cases.member? case (before ++ (key, json) :: after) key = some ⟨γ, inner⟩ → inner.Keeps json json' →
    ∀ β (shape : Shape β), cases.shape? case = some ⟨β, shape⟩ →
      shape.Keeps (.object (before ++ (key, json) :: after)) (.object (before ++ (key, json') :: after))
  | _, .nil, _, _, _, _, _, _, _, _, read, _, _, _, _ => by cases read
  | _, .plain name _ more, case, _, _, _, _, _, _, _, read, keeps, β, shape, known => by
    rw [Cases.member?] at read
    rw [Cases.shape?] at known
    by_cases here : case = name
    · rw [if_pos here] at known
      cases known
    · rw [if_neg here] at read known
      exact more.keeps_member read keeps β shape known
  | _, .shaped name own _ more, case, _, _, _, _, _, _, _, read, keeps, β, shape, known => by
    rw [Cases.member?] at read
    rw [Cases.shape?] at known
    by_cases here : case = name
    · rw [if_pos here] at read known
      cases known
      exact own.keeps_member read keeps
    · rw [if_neg here] at read known
      exact more.keeps_member read keeps β shape known

end

theorem Fields.keepsItems_replace {σ β γ : Type} {fields : Fields σ β} {before after : List Json}
    {json json' : Json} {inner : Shape γ} (read : fields.item? before.length = some ⟨γ, inner⟩)
    (keeps : inner.Keeps json json') :
    fields.KeepsItems (before ++ json :: after) (before ++ json' :: after) := by
  constructor
  · simp
  · intro position α shape known first second there there'
    by_cases here : position = before.length
    · subst here
      rw [read] at known
      cases known
      simp only [List.getElem?_append_right (Nat.le_refl _), Nat.sub_self, List.getElem?_cons_zero,
        Option.some.injEq] at there there'
      exact there ▸ there' ▸ keeps
    · have same : (before ++ json' :: after)[position]? = (before ++ json :: after)[position]? := by
        rcases Nat.lt_or_gt_of_ne here with early | late
        · rw [List.getElem?_append_left early, List.getElem?_append_left early]
        · obtain ⟨distance, rfl⟩ := Nat.exists_eq_add_of_lt late
          rw [List.getElem?_append_right (by omega), List.getElem?_append_right (by omega),
            show before.length + distance + 1 - before.length = distance + 1 by omega,
            List.getElem?_cons_succ, List.getElem?_cons_succ]
      rw [same, there] at there'
      cases there'
      exact .refl shape _

theorem Shape.keeps_item : {α : Type} → (shape : Shape α) → {before after : List Json} →
    {json json' : Json} → {γ : Type} → {inner : Shape γ} →
    shape.item? before.length = some ⟨γ, inner⟩ → inner.Keeps json json' →
    shape.Keeps (.array (before ++ json :: after)) (.array (before ++ json' :: after))
  | _, .optional shape, _, _, _, _, _, _, read, keeps => .optional nofun nofun (shape.keeps_item read keeps)
  | _, .convert build shape, _, _, _, _, _, _, read, keeps => .convert build (shape.keeps_item read keeps)
  | _, .list shape, before, after, _, _, _, _, read, keeps => by
    cases read
    exact .list (List.rel_append (forall₂_keeps_refl shape before) (.cons keeps (forall₂_keeps_refl shape after)))
  | _, .record name fields, _, _, _, _, _, _, read, keeps => .record_items (Fields.keepsItems_replace read keeps)

/-- Whatever is put under a key that does not count, the shape reads the same. -/
theorem Shape.Adds.keeps {α : Type} {shape : Shape α} {first second : Json} (adds : shape.Adds first second) :
    shape.Keeps first second := by
  induction adds with
  | @here _ shape before after keys key value record unknown =>
    refine shape.keeps_others record fun other inside => values_insert ?_ value
    rintro rfl
    exact unknown inside
  | member read _ ih => exact Shape.keeps_member _ read ih
  | item read _ ih => exact Shape.keeps_item _ read ih

end Snapshot

end ComponentDocs
