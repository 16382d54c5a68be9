import ComponentDocs.Proofs.Snapshot.Gathering

/-! Values that a shape reads alike. A shape keeps a change of a value if it still reads what it
read before; what an object is read as is kept if every field keeps what is under its name. -/
namespace ComponentDocs.Snapshot

open Json (Members)

variable {σ α β : Type}

namespace Shape

/-- Whatever the shape reads from the first value, it reads from the second. -/
def Keeps (shape : Shape α) (first second : Json) : Prop :=
  ∀ origin value, shape.ofJson origin first = .ok value → shape.ofJson origin second = .ok value

namespace Keeps

variable {shape : Shape α} {first second : Json}

theorem refl (shape : Shape α) (json : Json) : shape.Keeps json json := fun _ _ => id

theorem of_error (refused : ∀ origin, ∃ mismatch, shape.ofJson origin first = .error mismatch) :
    shape.Keeps first second := by
  intro origin value read
  obtain ⟨mismatch, failed⟩ := refused origin
  rw [failed] at read
  cases read

theorem convert (build : α → β) (keeps : shape.Keeps first second) :
    (Shape.convert build shape).Keeps first second := by
  intro origin value read
  rw [ofJson, map_eq_ok_iff] at read ⊢
  obtain ⟨inner, read, built⟩ := read
  exact ⟨inner, keeps origin inner read, built⟩

end Keeps

theorem ofJson_optional {shape : Shape α} {json : Json} (filled : json ≠ .null) (origin : Origin) :
    (Shape.optional shape).ofJson origin json = (shape.ofJson origin json).map some := by
  cases json with
  | null => exact absurd rfl filled
  | _ => rfl

namespace Keeps

variable {shape : Shape α}

theorem optional {first second : Json} (filled : first ≠ .null) (filled' : second ≠ .null)
    (keeps : shape.Keeps first second) : (Shape.optional shape).Keeps first second := by
  intro origin value read
  rw [ofJson_optional filled, map_eq_ok_iff] at read
  rw [ofJson_optional filled', map_eq_ok_iff]
  obtain ⟨inner, read, built⟩ := read
  exact ⟨inner, keeps origin inner read, built⟩

/-- What is read item by item is read from items that are kept. -/
theorem reads {first second : List Json} {origin : Origin} {values : List α}
    (each : List.Forall₂ shape.Keeps first second)
    (read : List.Forall₂ (fun json value => shape.ofJson origin json = .ok value) first values) :
    List.Forall₂ (fun json value => shape.ofJson origin json = .ok value) second values := by
  induction each generalizing values with
  | nil => exact read
  | cons keeps _ ih =>
    cases read with
    | cons head tail => exact .cons (keeps origin _ head) (ih tail)

theorem list {first second : List Json} (each : List.Forall₂ shape.Keeps first second) :
    (Shape.list shape).Keeps (.array first) (.array second) := by
  intro origin values read
  simp only [ofJson, mapM_eq_ok_iff] at read ⊢
  exact reads each read

theorem table {first second : Members}
    (each : List.Forall₂ (fun before after => after.1 = before.1 ∧ shape.Keeps before.2 after.2) first second) :
    (Shape.table shape).Keeps (.object first) (.object second) := by
  intro origin entries read
  simp only [ofJson, mapM_eq_ok_iff, map_eq_ok_iff] at read ⊢
  induction each generalizing entries with
  | nil => exact read
  | cons keeps _ ih =>
    obtain ⟨name, keeps⟩ := keeps
    cases read with
    | cons head tail =>
      obtain ⟨value, head, rfl⟩ := head
      exact .cons ⟨value, keeps origin value head, by rw [name]⟩ (ih _ tail)

end Keeps

end Shape

namespace Fields

def item? : {σ β : Type} → Fields σ β → Nat → Option ((α : Type) × Shape α)
  | _, _, .nil, _ => none
  | _, _, .cons _ shape _ _, 0 => some ⟨_, shape⟩
  | _, _, .cons _ _ _ more, position + 1 => more.item? position

/-- Every field keeps what is under its name, unless there are several values. -/
def Keeps (fields : Fields σ β) (first second : Members) : Prop :=
  ∀ key α (shape : Shape α), fields.shape? key = some ⟨α, shape⟩ →
    (Json.values key first).length ≤ 1 →
    List.Forall₂ shape.Keeps (Json.values key first) (Json.values key second)

def KeepsItems (fields : Fields σ β) (first second : List Json) : Prop :=
  first.length = second.length ∧
    ∀ (position : Nat) α (shape : Shape α), fields.item? position = some ⟨α, shape⟩ →
      ∀ before after, first[position]? = some before → second[position]? = some after →
        shape.Keeps before after

theorem gatherSlot_keeps {shape : Shape α} {default : Option α} {origin : Origin} {first second : List Json}
    {value : α} (each : first.length ≤ 1 → List.Forall₂ shape.Keeps first second)
    (gathered : gatherSlot shape default origin first = some value) :
    gatherSlot shape default origin second = some value := by
  rcases first with _ | ⟨json, _ | ⟨next, rest⟩⟩
  · obtain rfl := List.forall₂_nil_left_iff.mp (each (Nat.zero_le 1))
    exact gathered
  · have related := each (Nat.le_refl 1)
    rw [List.forall₂_cons_left_iff] at related
    obtain ⟨after, others, keeps, rest, rfl⟩ := related
    obtain rfl := List.forall₂_nil_left_iff.mp rest
    rw [gatherSlot, toOption_eq_some_iff] at gathered ⊢
    exact keeps origin value gathered
  · cases gathered

/-- Gathering looks at no more than what is under the names of the fields. -/
theorem gather_keeps : {σ β : Type} → (fields : Fields σ β) → {origin : Origin} →
    {first second : Members} → {values : β} → fields.Keeps first second →
    fields.gather origin first = some values → fields.gather origin second = some values
  | _, _, .nil, _, _, _, _, _, gathered => gathered
  | _, _, .cons name shape default more, origin, first, second, values, keeps, gathered => by
    have rest : more.Keeps (Json.without name first) (Json.without name second) := by
      intro key α shape known few
      rw [Json.values_without] at few ⊢
      rw [Json.values_without]
      by_cases same : key = name
      · rw [if_pos same, if_pos same]
        exact .nil
      · rw [if_neg same] at few
        rw [if_neg same, if_neg same]
        exact keeps key α shape (by rw [shape?, if_neg same, known]) few
    have here := keeps name _ shape (by rw [shape?, if_pos rfl])
    rw [gather, Option.bind_eq_some_iff] at gathered ⊢
    obtain ⟨value, slot, gathered⟩ := gathered
    rw [Option.map_eq_some_iff] at gathered
    obtain ⟨others, gathered, built⟩ := gathered
    refine ⟨value, gatherSlot_keeps here slot, ?_⟩
    rw [Option.map_eq_some_iff]
    exact ⟨others, more.gather_keeps rest gathered, built⟩

/-- Reading items in order looks at each of them under the field of its position. -/
theorem ofItems_keeps : {σ β : Type} → (fields : Fields σ β) → {origin : Origin} → {expected : String} →
    {read : Nat} → {first second rest : List Json} → {values : β} → fields.KeepsItems first second →
    fields.ofItems origin expected read first = .ok (values, rest) →
    ∃ rest', fields.ofItems origin expected read second = .ok (values, rest') ∧ rest'.length = rest.length
  | _, _, .nil, _, _, _, first, second, _, _, keeps, found => by
    rw [ofItems] at found
    cases found
    exact ⟨second, rfl, keeps.1.symm⟩
  | _, _, .cons name shape default more, origin, expected, read, first, second, rest, values, keeps, found => by
    obtain ⟨length, keeps⟩ := keeps
    rcases first with _ | ⟨before, first⟩
    · obtain rfl := List.length_eq_zero_iff.mp length.symm
      exact ⟨rest, found, rfl⟩
    · obtain ⟨after, second, rfl⟩ := List.exists_cons_of_length_eq_add_one length.symm
      have head := keeps 0 _ shape rfl before after rfl rfl
      have tail : more.KeepsItems first second :=
        ⟨Nat.succ.inj length, fun position α shape known before after there there' =>
          keeps (position + 1) α shape known before after there there'⟩
      rw [ofItems] at found ⊢
      cases readHead : shape.ofJson origin before with
      | error mismatch => simp [readHead] at found
      | ok value =>
        simp only [readHead, map_eq_ok_iff] at found
        obtain ⟨⟨others, left⟩, found, built⟩ := found
        obtain ⟨rest', found', same⟩ := more.ofItems_keeps tail found
        simp only [Prod.mk.injEq] at built
        obtain ⟨rfl, rfl⟩ := built
        refine ⟨rest', ?_, same⟩
        simp only [head origin value readHead, found', Except.map]

end Fields

namespace Shape.Keeps

theorem record {name : String} {fields : Fields σ α} {first second : Members}
    (keeps : fields.Keeps first second) :
    (Shape.record name fields).Keeps (.object first) (.object second) := by
  intro origin values read
  rw [ofJson_record_eq_ok_iff] at read ⊢
  exact fields.gather_keeps keeps read

theorem record_items {name : String} {fields : Fields σ α} {first second : List Json}
    (keeps : fields.KeepsItems first second) :
    (Shape.record name fields).Keeps (.array first) (.array second) := by
  intro origin values read
  rw [ofJson_record_items, bind_eq_ok_iff] at read ⊢
  obtain ⟨⟨others, rest⟩, found, closed⟩ := read
  obtain ⟨rest', found', same⟩ := fields.ofItems_keeps keeps found
  refine ⟨(others, rest'), found', ?_⟩
  rw [map_eq_ok_iff] at closed ⊢
  obtain ⟨_, checked, built⟩ := closed
  refine ⟨(), ?_, built⟩
  rcases rest with _ | ⟨item, rest⟩
  · obtain rfl := List.length_eq_zero_iff.mp same
    rfl
  · simp [checkRest] at checked

end Shape.Keeps

namespace Cases

def shape? : {α : Type} → Cases α → String → Option ((β : Type) × Shape β)
  | _, .nil, _ => none
  | _, .plain name _ more, case => if case = name then none else more.shape? case
  | _, .shaped name shape _ more, case => if case = name then some ⟨_, shape⟩ else more.shape? case

/-- A case keeps what its shape keeps. A plain case does not look at members. -/
theorem ofJson_keeps : {α : Type} → (cases : Cases α) → {tag case : String} → {first second : Json} →
    {value : α} → (checkPlain first = .ok () → checkPlain second = .ok ()) →
    (∀ β (shape : Shape β), cases.shape? case = some ⟨β, shape⟩ → shape.Keeps first second) →
    cases.ofJson tag case first = .ok value → cases.ofJson tag case second = .ok value
  | _, .nil, _, _, _, _, _, _, _, read => by cases read
  | _, .plain name found more, tag, case, first, second, value, bare, keeps, read => by
    rw [ofJson] at read ⊢
    by_cases same : case = name
    · rw [if_pos same, map_eq_ok_iff] at read ⊢
      obtain ⟨_, checked, built⟩ := read
      exact ⟨(), bare checked, built⟩
    · rw [if_neg same] at read ⊢
      refine more.ofJson_keeps bare (fun β shape known => keeps β shape ?_) read
      rw [shape?, if_neg same, known]
  | _, .shaped name shape build more, tag, case, first, second, value, bare, keeps, read => by
    rw [ofJson] at read ⊢
    by_cases same : case = name
    · rw [if_pos same, map_eq_ok_iff] at read ⊢
      obtain ⟨inner, read, built⟩ := read
      have here := keeps _ shape (by rw [shape?, if_pos same])
      exact ⟨inner, here .setAside inner read, built⟩
    · rw [if_neg same] at read ⊢
      refine more.ofJson_keeps bare (fun β shape known => keeps β shape ?_) read
      rw [shape?, if_neg same, known]

/-- The tag names the same case in the second object, and what is beside it is kept. -/
def KeepsCase (cases : Cases α) (tag : String) (first second : Members) : Prop :=
  ∀ origin case others, caseOfMembers origin tag cases.names first = .ok (case, others) →
    ∃ others', caseOfMembers origin tag cases.names second = .ok (case, others') ∧
      ∀ β (shape : Shape β), cases.shape? case = some ⟨β, shape⟩ →
        shape.Keeps (.object others) (.object others')

end Cases

namespace Shape.Keeps

theorem kinds {name tag : String} {cases : Cases α} {first second : Members}
    (keeps : cases.KeepsCase tag first second) :
    (Shape.kinds name tag cases).Keeps (.object first) (.object second) := by
  intro origin value read
  rw [ofJson] at read ⊢
  cases named : caseOfMembers origin tag cases.names first with
  | error mismatch => simp [named] at read
  | ok outcome =>
    obtain ⟨case, others⟩ := outcome
    obtain ⟨others', named', inner⟩ := keeps origin case others named
    simp only [named] at read
    simp only [named']
    exact cases.ofJson_keeps (fun _ => rfl) inner read

theorem extended {name tag : String} {fields : Fields σ α} {cases : Cases β} {first second : Members}
    (own : fields.Keeps first second)
    (others : cases.KeepsCase tag (first.filter fun member => !fields.has member.1)
      (second.filter fun member => !fields.has member.1)) :
    (Shape.extended name fields tag cases).Keeps (.object first) (.object second) := by
  rintro origin ⟨values, value⟩ read
  rw [ofJson_extended_eq_ok_iff] at read ⊢
  obtain ⟨gathered, case, beside, named, inner⟩ := read
  obtain ⟨beside', named', keeps⟩ := others .setAside case beside named
  exact ⟨fields.gather_keeps own gathered, case, beside', named', cases.ofJson_keeps (fun _ => rfl) keeps inner⟩

end Shape.Keeps

end ComponentDocs.Snapshot
