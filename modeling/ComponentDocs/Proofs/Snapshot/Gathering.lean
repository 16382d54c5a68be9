import ComponentDocs.Proofs.Json.Members
import ComponentDocs.Proofs.Outcomes
import ComponentDocs.Snapshot.OfJson

/-! What the fields of a record make of the members of an object, whatever their order. Members
fill the slots of fields one after another; what comes of it is that each field is read from
all that is under its name. -/
namespace ComponentDocs.Snapshot

-- The equations of the readers are made here, once for all proofs that unfold them.
attribute [local simp] Shape.ofJson Fields.fill Fields.ofItems Cases.ofJson

theorem splitTag_eq (tag : String) (members : Json.Members) :
    splitTag tag members = (Json.values tag members, Json.without tag members) := rfl

namespace Fields

/-- The shape of the field of a name. -/
def shape? : {σ β : Type} → Fields σ β → String → Option ((α : Type) × Shape α)
  | _, _, .nil, _ => none
  | _, _, .cons name shape _ more, key => if key = name then some ⟨_, shape⟩ else more.shape? key

def names : {σ β : Type} → Fields σ β → List String
  | _, _, .nil => []
  | _, _, .cons name _ _ more => name :: more.names

theorem isSome_shape? : {σ β : Type} → (fields : Fields σ β) → (key : String) →
    (fields.shape? key).isSome = fields.has key
  | _, _, .nil, _ => rfl
  | _, _, .cons name _ _ more, key => by
    have ih := more.isSome_shape? key
    by_cases same : key = name <;> simp [shape?, has, same, ih]

theorem has_iff_mem_names : {σ β : Type} → (fields : Fields σ β) → (key : String) →
    fields.has key ↔ key ∈ fields.names
  | _, _, .nil, _ => by simp [has, names]
  | _, _, .cons _ _ _ more, key => by simp [has, names, more.has_iff_mem_names key]

section Slot

variable {α : Type} (name : String) (shape : Shape α) (default : Option α) (origin : Origin)

def fillSlot (slot : Option α) (json : Json) : Except Mismatch (Option α) :=
  match slot with
  | some _ => .error (.duplicateField name)
  | none => (shape.ofJson origin json).map some

/-- What a field makes of all the values under its name. -/
def gatherSlot : List Json → Option α
  | [] => default
  | [json] => (shape.ofJson origin json).toOption
  | _ :: _ :: _ => none

theorem gatherSlot_eq_some_iff (values : List Json) (value : α) :
    gatherSlot shape default origin values = some value ↔
      ∃ slot, values.foldlM (fillSlot name shape origin) none = .ok slot ∧
        (slot <|> default) = some value := by
  rcases values with _ | ⟨first, _ | ⟨second, rest⟩⟩
  · simp [gatherSlot, pure, Except.pure]
  · cases read : shape.ofJson origin first with
    | error mismatch =>
      simp [gatherSlot, fillSlot, read, Except.toOption, Except.map, bind, Except.bind]
    | ok result =>
      simp [gatherSlot, fillSlot, read, Except.toOption, Except.map, bind, Except.bind, pure,
        Except.pure]
  · cases read : shape.ofJson origin first with
    | error mismatch => simp [gatherSlot, fillSlot, read, Except.map, bind, Except.bind]
    | ok result => simp [gatherSlot, fillSlot, read, Except.map, bind, Except.bind]

theorem gatherSlot_none_eq_some_iff {shape : Shape α} {origin : Origin} {values : List Json} {value : α} :
    gatherSlot shape none origin values = some value ↔
      ∃ json, values = [json] ∧ shape.ofJson origin json = .ok value := by
  rcases values with _ | ⟨first, _ | ⟨second, rest⟩⟩
  · simp [gatherSlot]
  · simp [gatherSlot, toOption_eq_some_iff]
  · simp [gatherSlot]

end Slot

variable {σ β : Type}

/-- The values of all fields, each read from what is under its name. -/
def gather : {σ β : Type} → Fields σ β → Origin → Json.Members → Option β
  | _, _, .nil, _, _ => some ()
  | _, _, .cons name shape default more, origin, members =>
    (gatherSlot shape default origin (Json.values name members)).bind fun value =>
      (more.gather origin (Json.without name members)).map fun values => (value, values)

def fillAll (fields : Fields σ β) (origin : Origin) (members : Json.Members) (slots : σ) :
    Except Mismatch σ :=
  members.foldlM (fun slots member => fields.fill origin member.1 member.2 slots) slots

/-- The members under the name of the first field fill its slot, and the others fill the
slots of the others. -/
theorem fillAll_cons {α : Type} (name : String) (shape : Shape α) (default : Option α) (more : Fields σ β)
    (origin : Origin) (members : Json.Members) (slot slot' : Option α) (slots slots' : σ) :
    (Fields.cons name shape default more).fillAll origin members (slot, slots) = .ok (slot', slots') ↔
      (Json.values name members).foldlM (fillSlot name shape origin) slot = .ok slot' ∧
        more.fillAll origin (Json.without name members) slots = .ok slots' := by
  induction members generalizing slot slots with
  | nil => simp [fillAll, Json.values, Json.without, pure, Except.pure]
  | cons member members ih =>
    obtain ⟨key, json⟩ := member
    by_cases same : key = name
    · subst same
      have left : Json.without key ((key, json) :: members) = Json.without key members := by
        simp [Json.without]
      rw [Json.values_cons, if_pos rfl, left, fillAll, List.foldlM_cons, List.foldlM_cons, bind_eq_ok_iff,
        bind_eq_ok_iff]
      cases slot with
      | some value => simp [fill, fillSlot]
      | none =>
        cases read : shape.ofJson origin json with
        | error mismatch => simp [fill, fillSlot, read, Except.map]
        | ok value =>
          simp only [fill, fillSlot, read, Except.map, if_true, Except.ok.injEq, exists_eq_left']
          exact ih (some value) slots
    · have left : Json.without name ((key, json) :: members) = (key, json) :: Json.without name members := by
        simp [Json.without, same]
      rw [Json.values_cons, if_neg same, left, fillAll, List.foldlM_cons, bind_eq_ok_iff]
      simp only [fill, if_neg same]
      cases filled : more.fill origin key json slots with
      | error mismatch => simp [fillAll, filled, Except.map, bind, Except.bind]
      | ok next =>
        simp only [Except.map, Except.ok.injEq, exists_eq_left']
        rw [show more.fillAll origin ((key, json) :: Json.without name members) slots =
          more.fillAll origin (Json.without name members) next by
            simp only [fillAll, List.foldlM_cons, filled, bind, Except.bind]]
        exact ih slot next

/-- Filling slots in the order of the members and gathering come to the same values. -/
theorem gather_eq_some_iff : {σ β : Type} → (fields : Fields σ β) → (origin : Origin) →
    (members : Json.Members) → (values : β) →
    (fields.gather origin members = some values ↔
      ∃ slots, fields.fillAll origin members fields.blank = .ok slots ∧ fields.finish slots = .ok values)
  | _, _, .nil, origin, members, () => by
    have filled : Fields.nil.fillAll origin members () = .ok () := by
      induction members with
      | nil => rfl
      | cons member members ih => exact ih
    simp [gather, blank, finish, filled]
  | _, _, .cons name shape default more, origin, members, (value, values) => by
    have ih := more.gather_eq_some_iff origin (Json.without name members) values
    simp only [gather, Option.bind_eq_some_iff, Option.map_eq_some_iff, Prod.mk.injEq,
      gatherSlot_eq_some_iff name]
    constructor
    · rintro ⟨_, ⟨slot, filled, settled⟩, _, gathered, rfl, rfl⟩
      obtain ⟨slots, rest, finished⟩ := ih.mp gathered
      refine ⟨(slot, slots), (fillAll_cons name shape default more origin members _ _ _ _).mpr ⟨filled, rest⟩, ?_⟩
      simp only [finish, settled, finished]
    · rintro ⟨⟨slot, slots⟩, filled, finished⟩
      obtain ⟨first, rest⟩ := (fillAll_cons name shape default more origin members _ _ _ _).mp filled
      rw [finish] at finished
      cases settled : slot <|> default with
      | none => simp [settled] at finished
      | some found =>
        cases others : more.finish slots with
        | error missing => simp [settled, others] at finished
        | ok found' =>
          simp only [settled, others, Except.ok.injEq, Prod.mk.injEq] at finished
          obtain ⟨rfl, rfl⟩ := finished
          exact ⟨found, ⟨slot, first, settled⟩, found', ih.mpr ⟨slots, rest, others⟩, rfl, rfl⟩

end Fields

/-- The tag names a case if there is one value under it, and that value is a case. -/
theorem caseOfMembers_eq_ok_iff {origin : Origin} {tag case : String} {names : List String}
    {members others : Json.Members} :
    caseOfMembers origin tag names members = .ok (case, others) ↔
      ∃ json, Json.values tag members = [json] ∧ tagOfJson origin names json = .ok case ∧
        Json.without tag members = others := by
  rw [caseOfMembers, splitTag_eq]
  rcases Json.values tag members with _ | ⟨json, _ | ⟨second, rest⟩⟩
  · simp
  · cases named : tagOfJson origin names json with
    | error mismatch => simp [named]
    | ok found => simp [named]
  · cases named : tagOfJson origin names json with
    | error mismatch => simp [named]
    | ok found => simp [named]

namespace Shape

theorem ofJson_convert {α β : Type} (build : α → β) (shape : Shape α) (origin : Origin) (json : Json) :
    (convert build shape).ofJson origin json = (shape.ofJson origin json).map build := by
  rw [ofJson]

variable {σ α : Type}

/-- A record is read from the items of a list in the order of its fields. -/
theorem ofJson_record_items (name : String) (fields : Fields σ α) (origin : Origin) (items : List Json) :
    (record name fields).ofJson origin (.array items) =
      fields.ofItems origin ("struct " ++ name ++ " with " ++ Mismatch.counted fields.size) 0 items >>=
        fun (values, rest) => (checkRest origin fields.size rest).map fun () => values := by
  rw [ofJson]
  cases fields.ofItems origin ("struct " ++ name ++ " with " ++ Mismatch.counted fields.size) 0 items <;> rfl

/-- A record is read from the members of an object in the order of the object. -/
theorem ofJson_record (name : String) (fields : Fields σ α) (origin : Origin) (members : Json.Members) :
    (record name fields).ofJson origin (.object members) =
      fields.fillAll origin members fields.blank >>= fun slots => (fields.finish slots).mapError .missingField := by
  rw [ofJson, Fields.fillAll]
  cases members.foldlM (fun slots member => fields.fill origin member.1 member.2 slots) fields.blank <;> rfl

/-- When a record is read from an object. -/
theorem ofJson_record_eq_ok_iff {name : String} {fields : Fields σ α} {origin : Origin} {members : Json.Members}
    {values : α} :
    (record name fields).ofJson origin (.object members) = .ok values ↔
      fields.gather origin members = some values := by
  rw [Fields.gather_eq_some_iff, ofJson_record, bind_eq_ok_iff]
  simp only [mapError_eq_ok_iff]

end Shape

/-- When an object is read as a record with the case that its tag names. -/
theorem Shape.ofJson_extended_eq_ok_iff {σ α β : Type} {name tag : String} {fields : Fields σ α}
    {cases : Cases β} {origin : Origin} {members : Json.Members} {values : α} {value : β} :
    (Shape.extended name fields tag cases).ofJson origin (.object members) = .ok (values, value) ↔
      fields.gather origin members = some values ∧ ∃ case others,
        caseOfMembers .setAside tag cases.names (members.filter fun member => !fields.has member.1) =
          .ok (case, others) ∧
        cases.ofJson tag case (.object others) = .ok value := by
  rw [Fields.gather_eq_some_iff, Shape.ofJson]
  cases filled : fields.fillAll origin members fields.blank with
  | error mismatch =>
    rw [Fields.fillAll] at filled
    simp [filled]
  | ok slots =>
    rw [Fields.fillAll] at filled
    simp only [filled]
    cases finished : fields.finish slots with
    | error missing => simp [finished]
    | ok found =>
      cases named : caseOfMembers .setAside tag cases.names
          (members.filter fun member => !fields.has member.1) with
      | error mismatch => simp
      | ok split =>
        obtain ⟨case, others⟩ := split
        simp [finished, map_eq_ok_iff]
        tauto

end ComponentDocs.Snapshot
