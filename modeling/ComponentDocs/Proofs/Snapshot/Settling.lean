import ComponentDocs.Proofs.Snapshot.Keeping
import ComponentDocs.Snapshot.Shapes

/-! Settled values are read like the values they come from: a shape looks at each key of an
object by itself, and refuses a key of its own that comes twice. Only a table takes every
member as it comes, so what is built from one has to go by the last value of each key. -/
namespace ComponentDocs

open Json (MembersSettle Settles)

namespace Snapshot

variable {σ α β : Type}

/-- From every settled form of a value the shape reads what it reads from the value. -/
def Shape.Steady (shape : Shape α) : Prop := ∀ first second, Settles first second → shape.Keeps first second

def Fields.Steady : {σ β : Type} → Fields σ β → Prop
  | _, _, .nil => True
  | _, _, .cons _ shape _ more => shape.Steady ∧ more.Steady

def Cases.Steady : {α : Type} → Cases α → Prop
  | _, .nil => True
  | _, .plain _ _ more => more.Steady
  | _, .shaped _ shape _ more => shape.Steady ∧ more.Steady

namespace Fields

theorem Steady.of_shape? : {σ β : Type} → {fields : Fields σ β} → fields.Steady → {key : String} →
    {shape : Shape α} → fields.shape? key = some ⟨α, shape⟩ → shape.Steady
  | _, _, .nil, _, _, _, known => by cases known
  | _, _, .cons name _ _ more, steady, key, shape, known => by
    rw [Fields.shape?] at known
    by_cases same : key = name
    · rw [if_pos same] at known
      cases known
      exact steady.1
    · rw [if_neg same] at known
      exact Steady.of_shape? steady.2 known

theorem Steady.of_item? : {σ β : Type} → {fields : Fields σ β} → fields.Steady → {position : Nat} →
    {shape : Shape α} → fields.item? position = some ⟨α, shape⟩ → shape.Steady
  | _, _, .nil, _, _, _, known => by cases known
  | _, _, .cons _ _ _ _, steady, 0, _, known => by
    cases known
    exact steady.1
  | _, _, .cons _ _ _ _, steady, _ + 1, _, known => Steady.of_item? steady.2 known

variable {fields : Fields σ β}

theorem Steady.keeps (steady : fields.Steady) {first second : Json.Members}
    (settle : MembersSettle first second) : fields.Keeps first second := by
  intro key α shape known few
  have each := settle key
  rw [Json.toList_getLast? few] at each
  exact each.imp fun before after settles => steady.of_shape? known before after settles

theorem Steady.keepsItems (steady : fields.Steady) {first second : List Json}
    (each : List.Forall₂ Settles first second) : fields.KeepsItems first second := by
  refine ⟨each.length_eq, ?_⟩
  intro position α shape known before after there there'
  obtain ⟨inside, rfl⟩ := List.getElem?_eq_some_iff.mp there
  obtain ⟨inside', rfl⟩ := List.getElem?_eq_some_iff.mp there'
  exact steady.of_item? known _ _ (each.get inside inside')

end Fields

theorem tagOfJson_settles {origin : Origin} {names : List String} {first second : Json} {case : String}
    (settles : Settles first second) (named : tagOfJson origin names first = .ok case) :
    tagOfJson origin names second = .ok case := by
  cases settles with
  | null | bool | number | string => exact named
  | array | object => cases named

namespace Cases

theorem Steady.of_shape? : {β : Type} → {cases : Cases β} → cases.Steady → {case : String} →
    {shape : Shape α} → cases.shape? case = some ⟨α, shape⟩ → shape.Steady
  | _, .nil, _, _, _, known => by cases known
  | _, .plain name _ more, steady, case, shape, known => by
    rw [Cases.shape?] at known
    split at known
    · cases known
    · have others : more.Steady := steady
      exact others.of_shape? known
  | _, .shaped name _ _ more, steady, case, shape, known => by
    rw [Cases.shape?] at known
    split at known
    · cases known
      exact steady.1
    · exact Steady.of_shape? steady.2 known

theorem Steady.keepsCase {cases : Cases β} (steady : cases.Steady) (tag : String)
    {first second : Json.Members} (settle : MembersSettle first second) :
    cases.KeepsCase tag first second := by
  intro origin case others named
  obtain ⟨json, only, isCase, rfl⟩ := caseOfMembers_eq_ok_iff.mp named
  have each := settle tag
  rw [only, List.getLast?_singleton] at each
  obtain ⟨json', rest, settles, nothing, only'⟩ := List.forall₂_cons_left_iff.mp each
  obtain rfl := List.forall₂_nil_left_iff.mp nothing
  refine ⟨Json.without tag second, ?_, ?_⟩
  · rw [caseOfMembers_eq_ok_iff]
    exact ⟨json', only', tagOfJson_settles settles isCase, rfl⟩
  · intro β shape known
    exact steady.of_shape? known _ _ (.object (settle.filter fun key => !(key == tag)))

end Cases

namespace Shape

theorem steady_text : text.Steady := by
  intro first second settles
  cases settles with
  | null | bool | number | string => exact .refl _ _
  | array | object => exact .of_error fun _ => ⟨_, rfl⟩

theorem steady_flag : flag.Steady := by
  intro first second settles
  cases settles with
  | null | bool | number | string => exact .refl _ _
  | array | object => exact .of_error fun _ => ⟨_, rfl⟩

theorem steady_count : count.Steady := by
  intro first second settles
  cases settles with
  | null | bool | number | string => exact .refl _ _
  | array | object => exact .of_error fun _ => ⟨_, rfl⟩

/-- What is beside a word settles as nothing else but itself. -/
theorem checkUnit_settles {origin : Origin} {first second : Json} (settles : Settles first second)
    (checked : checkUnit origin first = .ok ()) : checkUnit origin second = .ok () := by
  cases settles with
  | null | bool | number | string => exact checked
  | array => cases checked
  | @object members others each =>
    cases members with
    | cons member members => cases checked
    | nil =>
      obtain rfl := MembersSettle.nil each
      exact checked

theorem steady_choice (options : List (String × α)) : (choice options).Steady := by
  intro first second settles
  cases settles with
  | null | bool | number | string => exact .refl _ _
  | array => exact .of_error fun _ => ⟨_, rfl⟩
  | @object members others each =>
    intro origin value read
    rcases members with _ | ⟨⟨name, content⟩, _ | ⟨next, rest⟩⟩
    · cases read
    · obtain ⟨content', settles, rfl⟩ := MembersSettle.singleton each
      simp only [ofJson, choiceOfJson] at read ⊢
      cases named : optionNamed options name with
      | error mismatch => simp [named] at read
      | ok found =>
        cases checked : checkUnit origin content with
        | error mismatch => simp [named, checked] at read
        | ok =>
          rw [named, checked] at read
          rw [checkUnit_settles settles checked]
          exact read
    · cases read

theorem steady_optional {shape : Shape α} (steady : shape.Steady) : (optional shape).Steady := by
  intro first second settles
  by_cases absent : first = .null
  · subst absent
    cases settles
    exact .refl _ _
  · have filled : second ≠ .null := by
      rintro rfl
      cases settles
      exact absent rfl
    exact .optional absent filled (steady first second settles)

theorem steady_list {shape : Shape α} (steady : shape.Steady) : (list shape).Steady := by
  intro first second settles
  cases settles with
  | null | bool | number | string | object => exact .of_error fun _ => ⟨_, rfl⟩
  | array each => exact .list (each.imp steady)

theorem steady_record (name : String) {fields : Fields σ β} (steady : fields.Steady) :
    (record name fields).Steady := by
  intro first second settles
  cases settles with
  | null | bool | number | string => exact .of_error fun _ => ⟨_, rfl⟩
  | array each => exact .record_items (steady.keepsItems each)
  | object settle => exact .record (steady.keeps settle)

theorem steady_kinds (name tag : String) {cases : Cases β} (steady : cases.Steady) :
    (kinds name tag cases).Steady := by
  intro first second settles
  cases settles with
  | null | bool | number | string => exact .of_error fun _ => ⟨_, rfl⟩
  | object settle => exact .kinds (steady.keepsCase tag settle)
  | array each =>
    intro origin value read
    cases each with
    | nil => cases read
    | @cons item item' items items' settles rest =>
      simp only [ofJson] at read ⊢
      cases named : tagOfJson origin cases.names item with
      | error mismatch => simp [named] at read
      | ok case =>
        rw [named] at read
        rw [tagOfJson_settles settles named]
        refine cases.ofJson_keeps ?_ ?_ read
        · intro bare
          cases rest with
          | nil => exact bare
          | cons => simp [checkPlain, checkRest] at bare
        · intro β shape known
          exact steady.of_shape? known _ _ (.array rest)

theorem steady_extended (name tag : String) {fields : Fields σ α} {cases : Cases β} (own : fields.Steady)
    (steady : cases.Steady) : (extended name fields tag cases).Steady := by
  intro first second settles
  cases settles with
  | null | bool | number | string | array => exact .of_error fun _ => ⟨_, rfl⟩
  | object settle =>
    exact .extended (own.keeps settle) (steady.keepsCase tag (MembersSettle.filter settle fun key => !fields.has key))

theorem steady_convert (build : α → β) {shape : Shape α} (steady : shape.Steady) :
    (convert build shape).Steady := fun first second settles => .convert build (steady first second settles)

end Shape

mutual

/-- There is no table inside. -/
def Shape.isTableFree : {α : Type} → Shape α → Bool
  | _, .text | _, .flag | _, .count | _, .choice _ => true
  | _, .optional shape | _, .list shape | _, .convert _ shape => shape.isTableFree
  | _, .table _ => false
  | _, .record _ fields => fields.areTableFree
  | _, .kinds _ _ cases => cases.areTableFree
  | _, .extended _ fields _ cases => fields.areTableFree && cases.areTableFree

def Fields.areTableFree : {σ β : Type} → Fields σ β → Bool
  | _, _, .nil => true
  | _, _, .cons _ shape _ more => shape.isTableFree && more.areTableFree

def Cases.areTableFree : {α : Type} → Cases α → Bool
  | _, .nil => true
  | _, .plain _ _ more => more.areTableFree
  | _, .shaped _ shape _ more => shape.isTableFree && more.areTableFree

end

mutual

theorem Shape.steady : {α : Type} → (shape : Shape α) → shape.isTableFree → shape.Steady
  | _, .text, _ => Shape.steady_text
  | _, .flag, _ => Shape.steady_flag
  | _, .count, _ => Shape.steady_count
  | _, .choice options, _ => Shape.steady_choice options
  | _, .optional shape, free => Shape.steady_optional (shape.steady free)
  | _, .list shape, free => Shape.steady_list (shape.steady free)
  | _, .record name fields, free => Shape.steady_record name (fields.steady free)
  | _, .kinds name tag cases, free => Shape.steady_kinds name tag (cases.steady free)
  | _, .extended name fields tag cases, free => by
    rw [Shape.isTableFree, Bool.and_eq_true] at free
    exact Shape.steady_extended name tag (fields.steady free.1) (cases.steady free.2)
  | _, .convert build shape, free => Shape.steady_convert build (shape.steady free)

theorem Fields.steady : {σ β : Type} → (fields : Fields σ β) → fields.areTableFree → fields.Steady
  | _, _, .nil, _ => trivial
  | _, _, .cons _ shape _ more, free => by
    rw [Fields.areTableFree, Bool.and_eq_true] at free
    exact ⟨shape.steady free.1, more.steady free.2⟩

theorem Cases.steady : {α : Type} → (cases : Cases α) → cases.areTableFree → cases.Steady
  | _, .nil, _ => trivial
  | _, .plain _ _ more, free => more.steady free
  | _, .shaped _ shape _ more, free => by
    rw [Cases.areTableFree, Bool.and_eq_true] at free
    exact ⟨shape.steady free.1, more.steady free.2⟩

end

section Table

variable {shape : Shape α} {origin : Origin} {members : Json.Members} {entries : List (String × α)}

theorem ofJson_table_eq_ok_iff :
    (Shape.table shape).ofJson origin (.object members) = .ok entries ↔
      List.Forall₂ (fun member entry => member.1 = entry.1 ∧ shape.ofJson origin member.2 = .ok entry.2)
        members entries := by
  rw [Shape.ofJson, mapM_eq_ok_iff]
  refine iff_of_eq (congrArg (List.Forall₂ · members entries) ?_)
  funext member entry
  rw [map_eq_ok_iff, eq_iff_iff]
  constructor
  · rintro ⟨value, read, rfl⟩
    exact ⟨rfl, read⟩
  · rintro ⟨name, read⟩
    exact ⟨entry.2, read, Prod.ext name rfl⟩

/-- The entries under a key are read from the members under it. -/
theorem forall₂_values (key : String)
    (read : (Shape.table shape).ofJson origin (.object members) = .ok entries) :
    List.Forall₂ (fun json value => shape.ofJson origin json = .ok value) (Json.values key members)
      (Json.values key entries) := by
  rw [ofJson_table_eq_ok_iff] at read
  induction read with
  | nil => exact .nil
  | @cons member entry _ _ head _ ih =>
    obtain ⟨name, head⟩ := head
    rw [Json.values_cons, Json.values_cons, name]
    split
    · exact .cons head ih
    · exact ih

theorem exists_table (each : ∀ member ∈ members, ∃ value, shape.ofJson origin member.2 = .ok value) :
    ∃ entries, (Shape.table shape).ofJson origin (.object members) = .ok entries := by
  induction members with
  | nil => exact ⟨[], rfl⟩
  | cons member members ih =>
    obtain ⟨value, head⟩ := each member List.mem_cons_self
    obtain ⟨entries, tail⟩ := ih fun other inside => each other (List.mem_cons_of_mem _ inside)
    rw [ofJson_table_eq_ok_iff] at tail
    exact ⟨(member.1, value) :: entries, ofJson_table_eq_ok_iff.mpr (.cons ⟨rfl, head⟩ tail)⟩

end Table

/-- Lists that are related item by item end alike. -/
theorem forall₂_getLast? {related : α → β → Prop} {first : List α} {second : List β}
    (each : List.Forall₂ related first second) :
    List.Forall₂ related first.getLast?.toList second.getLast?.toList := by
  induction each with
  | nil => exact .nil
  | @cons _ _ items others head tail ih =>
    cases tail with
    | nil => exact .cons head .nil
    | cons next rest => simpa only [List.getLast?_cons_cons] using ih

theorem exists_of_forall₂ {related : α → β → Prop} {first : List α} {second : List β}
    (each : List.Forall₂ related first second) {item : α} (inside : item ∈ first) :
    ∃ other, related item other := by
  induction each with
  | nil => cases inside
  | cons head _ ih =>
    rcases List.mem_cons.mp inside with rfl | later
    · exact ⟨_, head⟩
    · exact ih later

/-- What is built from a table by the last value of each key is read from settled values as well. -/
theorem Shape.steady_lookup {shape : Shape α} (steady : shape.Steady) {build : List (String × α) → β}
    (last : ∀ entries others : List (String × α),
      (∀ key, (Json.values key entries).getLast? = (Json.values key others).getLast?) →
        build entries = build others) : (convert build (table shape)).Steady := by
  intro first second settles
  cases settles with
  | null | bool | number | string | array => exact .of_error fun _ => ⟨_, rfl⟩
  | @object members others each =>
    intro origin value read
    rw [ofJson, map_eq_ok_iff] at read ⊢
    obtain ⟨entries, read, rfl⟩ := read
    -- The last value of a key is read, and it is all that the settled members have there.
    have found (key : String) : List.Forall₂ (fun json value => shape.ofJson origin json = .ok value)
        (Json.values key others) (Json.values key entries).getLast?.toList :=
      Keeps.reads ((each key).imp steady) (forall₂_getLast? (forall₂_values key read))
    obtain ⟨entries', read'⟩ : ∃ entries', (table shape).ofJson origin (.object others) = .ok entries' :=
      exists_table fun member inside => exists_of_forall₂ (found member.1) (Json.mem_values inside)
    refine ⟨entries', read', last entries' entries fun key => ?_⟩
    have alike : Json.values key entries' = (Json.values key entries).getLast?.toList := by
      have unique : Relator.RightUnique fun json value => shape.ofJson origin json = .ok value := by
        intro json value value' here there
        rw [here] at there
        cases there
        rfl
      exact unique.forall₂ (forall₂_values key read') (found key)
    rw [alike]
    cases (Json.values key entries).getLast? <;> rfl

end Snapshot

open Snapshot (Shape)

theorem Component.shape_steady : Component.shape.Steady := Component.shape.steady rfl

theorem ServiceApi.shape_steady : ServiceApi.shape.Steady := ServiceApi.shape.steady rfl

/-- The services of a request go by the last entry of each name. -/
theorem PropertyServices.find?_ofList (entries : List (String × ServiceApi)) (name : String) :
    (ofList entries).find? name = (Json.values name entries).getLast? := by
  suffices general : ∀ services : PropertyServices,
      (entries.foldl (fun services entry => services.insert entry.1 entry.2) services).find? name =
        ((Json.values name entries).getLast?).or (services.find? name) by
    exact (general empty).trans Option.or_none
  induction entries with
  | nil => exact fun services => rfl
  | cons entry entries ih =>
    intro services
    rw [List.foldl_cons, ih, Json.values_cons]
    by_cases same : entry.1 = name
    · subst same
      rw [if_pos rfl, List.getLast?_cons]
      cases (Json.values entry.1 entries).getLast? with
      | none => simp [insert]
      | some api => rfl
    · have untouched : (services.insert entry.1 entry.2).find? name = services.find? name :=
        if_neg (Ne.symm same)
      rw [if_neg same, untouched]

theorem PropertyServices.ofList_eq_of_last {entries others : List (String × ServiceApi)}
    (same : ∀ name, (Json.values name entries).getLast? = (Json.values name others).getLast?) :
    ofList entries = ofList others := by
  have found : (ofList entries).find? = (ofList others).find? := by
    funext name
    rw [find?_ofList, find?_ofList, same name]
  exact congrArg PropertyServices.mk found

theorem Request.shape_steady : Request.shape.Steady := by
  refine Shape.steady_convert _ (Shape.steady_record _ ⟨Component.shape_steady, ?_, ?_, trivial⟩)
  · exact Shape.steady_list ServiceApi.shape_steady
  · exact Shape.steady_lookup ServiceApi.shape_steady fun _ _ => PropertyServices.ofList_eq_of_last

end ComponentDocs
