import ComponentDocs.Proofs.Snapshot.Agreement

/-! Fields of a record that stand in a gap. Reading the record comes to reading what is in the gap,
with the default of the field where nothing is, and the other fields stay what they are. -/
namespace ComponentDocs

open Json (Gap Members)

namespace Snapshot

theorem Shape.null_refused : {α : Type} → {shape : Shape α} → shape.takesNull = false → (origin : Origin) →
    (shape.ofJson origin .null).toOption = none
  | _, .convert build shape, refuses, origin => by
    rw [takesNull] at refuses
    rw [ofJson_convert, toOption_map, null_refused refuses origin, Option.map_none]
  | _, .text, _, _ | _, .flag, _, _ | _, .count, _, _ | _, .choice _, _, _ | _, .list _, _, _ | _, .table _, _, _
  | _, .record _ _, _, _ | _, .kinds _ _ _, _, _ | _, .extended _ _ _ _, _, _ => rfl

/-- Reading depends on what stands in a gap as on the field alone. -/
def RecordField.Governs {α : Type} (field : RecordField α) (read : Option Json → Option α) : Prop :=
  ∃ (γ : Type) (shape : Shape γ) (default : Option γ) (origin : Origin) (set : γ → α),
    field.presence.Fits shape default set ∧ field.contents.Fits shape set ∧
      ∀ json?, read json? = (Fields.gatherSlot shape default origin json?.toList).map set

/-- What becomes of a record when a field is not there, or is `null`. -/
def Presence.Degrades {α β : Type} (presence : Presence α) (part : α) (fill : α → β)
    (read : Option Json → Option β) : Prop :=
  match presence with
  | .needed => read none = none ∧ read (some .null) = none
  | .defaulted reset => read none = some (fill (reset part)) ∧ read (some .null) = none
  | .optional reset => read none = some (fill (reset part)) ∧ read (some .null) = read none

theorem RecordField.Governs.degrades {α : Type} {field : RecordField α} {read : Option Json → Option α}
    (governs : field.Governs read) {json? : Option Json} {part : α} (accepted : read json? = some part) :
    field.presence.Degrades part id read := by
  obtain ⟨γ, shape, default, origin, set, fits, -, reads⟩ := governs
  rw [reads] at accepted
  obtain ⟨value, -, rfl⟩ := Option.map_eq_some_iff.mp accepted
  have absent : read none = default.map set := reads none
  have null : read (some .null) = (shape.ofJson origin .null).toOption.map set := reads (some .null)
  generalize field.presence = presence at fits ⊢
  cases fits with
  | needed refuses => exact ⟨absent, by rw [null, Shape.null_refused refuses, Option.map_none]⟩
  | defaulted refuses resets =>
    refine ⟨?_, by rw [null, Shape.null_refused refuses, Option.map_none]⟩
    rw [absent, id, resets, Option.map_some]
  | optional resets =>
    refine ⟨?_, null.trans absent.symm⟩
    rw [absent, id, resets, Option.map_some]

namespace Fields.Conforms

variable {σ β α : Type} {fields : Fields σ β} {build : β → α} {table : List (RecordField α)}

theorem names_eq (conforms : fields.Conforms build table) (values : β) :
    fields.names = table.map RecordField.key := by
  induction conforms with
  | nil => rfl
  | cons named _ _ _ ih => rw [names, List.map_cons, named, ih values.1 values.2]

theorem has_iff (conforms : fields.Conforms build table) (values : β) (key : String) :
    fields.has key = true ↔ key ∈ table.map RecordField.key := by
  rw [fields.has_iff_mem_names, conforms.names_eq values]

/-- A field in a gap governs what the record is read as. -/
theorem governs (conforms : fields.Conforms build table) (distinct : (table.map RecordField.key).Nodup) {gap : Gap}
    {origin : Origin} {json? : Option Json} {values : β}
    (accepted : fields.gather origin (gap.fill json?) = some values) {field : RecordField α} (known : field ∈ table)
    (named : gap.key = field.key) :
    field.Governs fun json? => (fields.gather origin (gap.fill json?)).map build := by
  induction conforms generalizing gap with
  | nil => cases known
  | @cons σ β γ α key shape default more build first others first_key presence contents _ ih =>
    obtain ⟨value, slot, rest⟩ := Option.bind_eq_some_iff.mp accepted
    obtain ⟨behind, gathered, -⟩ := Option.map_eq_some_iff.mp rest
    rw [List.map_cons, List.nodup_cons] at distinct
    rcases List.mem_cons.mp known with rfl | later
    · -- The gap is that of the first field, and the fields behind it do not see what is in it.
      have same : gap.key = key := named.trans first_key
      subst same
      rw [gap.without_key] at gathered
      refine ⟨γ, shape, default, origin, _, presence behind, contents behind, ?_⟩
      intro json?
      simp only [gather, gap.values_key, gap.without_key, gathered]
      cases gatherSlot shape default origin json?.toList <;> rfl
    · -- The first field does not see the gap, and hands it on to those behind.
      have different : gap.key ≠ key := by
        rw [named, ← first_key]
        intro same
        exact distinct.1 (same ▸ List.mem_map_of_mem later)
      rw [gap.values_other _ (Ne.symm different)] at slot
      rw [gap.without_other _ different] at gathered
      obtain ⟨δ, inner, own, origin', set, fits, holds, reads⟩ :=
        ih value distinct.2 gathered later named
      refine ⟨δ, inner, own, origin', set, fits, holds, ?_⟩
      intro json?
      simp only [← reads, gather, gap.values_other _ (Ne.symm different), gap.without_other _ different, slot]
      cases more.gather origin ((gap.filter _).fill json?) <;> rfl

end Fields.Conforms

namespace Fields

theorem gather_fill_foreign {σ β : Type} {fields : Fields σ β} {gap : Gap} (origin : Origin)
    (foreign : fields.has gap.key = false) (json? : Option Json) :
    fields.gather origin (gap.fill json?) = fields.gather origin (gap.fill none) := by
  have same (key : String) (inside : key ∈ fields.names) :
      Json.values key (gap.fill json?) = Json.values key (gap.fill none) := by
    apply gap.values_other
    rintro rfl
    rw [← has_iff_mem_names, foreign] at inside
    cases inside
  apply Option.ext
  intro values
  constructor
  · apply fields.gather_keeps
    apply keeps_of_values
    intro key inside
    exact (same key inside).symm
  · apply fields.gather_keeps
    exact keeps_of_values same

/-- A gap that is no field is a gap of the members beside the fields. -/
theorem beside_fill {σ β : Type} {fields : Fields σ β} {gap : Gap} (foreign : fields.has gap.key = false)
    (json? : Option Json) : ((gap.fill json?).filter fun member => !fields.has member.1) =
      (gap.filter fun key => !fields.has key).fill json? := by
  apply gap.filter_fill json? fun key => !fields.has key
  rw [foreign]
  rfl

end Fields

/-- A gap beside the tag makes no difference to the case, and is a gap of what the case reads. -/
theorem Cases.found?_fill_of_ok {α : Type} {cases : Cases α} {tag case : String} (gap : Gap) {json? : Option Json}
    {others : Members} (beside : gap.key ≠ tag)
    (named : caseOfMembers .setAside tag cases.names (gap.fill json?) = .ok (case, others)) :
    others = (gap.filter fun key => !(key == tag)).fill json? ∧ ∀ json?, cases.found? tag (gap.fill json?) =
      some (case, (gap.filter fun key => !(key == tag)).fill json?) := by
  obtain ⟨json, only, isCase, rfl⟩ := caseOfMembers_eq_ok_iff.mp named
  refine ⟨gap.without_other _ beside, ?_⟩
  intro other?
  rw [found?, toOption_eq_some_iff, caseOfMembers_eq_ok_iff, ← gap.without_other _ beside]
  rw [gap.values_other _ (Ne.symm beside)] at only ⊢
  exact ⟨json, only, isCase, rfl⟩

theorem Cases.found?_tag {α : Type} (cases : Cases α) {tag : String} (gap : Gap) (tagged : gap.key = tag) :
    cases.found? tag (gap.fill none) = none ∧ cases.found? tag (gap.fill (some .null)) = none := by
  subst tagged
  simp only [found?, caseOfMembers, splitTag_eq, gap.values_key, Option.toList]
  exact ⟨rfl, rfl⟩

namespace Shape

variable {σ α β : Type}

theorem toOption_ofJson_extended (name tag : String) (fields : Fields σ α) (cases : Cases β) (origin : Origin)
    (members : Members) :
    ((extended name fields tag cases).ofJson origin (.object members)).toOption =
      (fields.gather origin members).bind fun values =>
        (cases.found? tag (members.filter fun member => !fields.has member.1)).bind fun (case, others) =>
          (cases.ofJson tag case (.object others)).toOption.map fun value => (values, value) := by
  apply Option.ext
  rintro ⟨values, value⟩
  rw [toOption_eq_some_iff, ofJson_extended_eq_ok_iff]
  simp only [Option.bind_eq_some_iff, Option.map_eq_some_iff, Cases.found?, toOption_eq_some_iff, Prod.exists,
    Prod.mk.injEq]
  constructor
  · rintro ⟨gathered, case, others, named, read⟩
    exact ⟨values, gathered, case, others, named, value, read, rfl, rfl⟩
  · rintro ⟨_, gathered, case, others, named, _, read, rfl, rfl⟩
    exact ⟨gathered, case, others, named, read⟩

section Extended

variable {name tag : String} {fields : Fields σ α} {cases : Cases β} {gap : Gap} {origin : Origin}
  {json? : Option Json} {values : α} {value : β}

/-- The case is read from the members beside the fields, which stay when a field changes. -/
theorem extended_own (own : fields.has gap.key = true)
    (accepted : (extended name fields tag cases).ofJson origin (.object (gap.fill json?)) = .ok (values, value))
    (json? : Option Json) :
    ((extended name fields tag cases).ofJson origin (.object (gap.fill json?))).toOption =
      (fields.gather origin (gap.fill json?)).map fun values => (values, value) := by
  obtain ⟨-, case, others, named, read⟩ := ofJson_extended_eq_ok_iff.mp accepted
  have beside (json? : Option Json) :=
    gap.filter_fill_of_not json? (fun key => !fields.has key) (by rw [own]; rfl)
  have found := Cases.found?_of_ok named
  rw [beside] at found
  simp only [toOption_ofJson_extended, beside, found, Option.bind_some, read]
  cases fields.gather origin (gap.fill json?) <;> rfl

/-- The fields do not see a gap beside them, and the case has it among its members. -/
theorem extended_beside (foreign : fields.has gap.key = false) (untagged : gap.key ≠ tag)
    (accepted : (extended name fields tag cases).ofJson origin (.object (gap.fill json?)) = .ok (values, value)) :
    ∃ (case : String) (beside : Gap), beside.key = gap.key ∧
      cases.ofJson tag case (.object (beside.fill json?)) = .ok value ∧
      ∀ json?, ((extended name fields tag cases).ofJson origin (.object (gap.fill json?))).toOption =
        (cases.ofJson tag case (.object (beside.fill json?))).toOption.map fun value => (values, value) := by
  obtain ⟨gathered, case, others, named, read⟩ := ofJson_extended_eq_ok_iff.mp accepted
  rw [Fields.gather_fill_foreign origin foreign] at gathered
  rw [Fields.beside_fill foreign] at named
  obtain ⟨rfl, cased⟩ := Cases.found?_fill_of_ok (gap.filter _) untagged named
  refine ⟨case, (gap.filter _).filter _, rfl, read, ?_⟩
  intro json?
  simp only [toOption_ofJson_extended, Fields.gather_fill_foreign origin foreign, gathered,
    Fields.beside_fill foreign, Option.bind_some, cased]

/-- There is no case without a tag, nor is there one for `null`. -/
theorem extended_tag (name : String) (cases : Cases β) (origin : Origin) (foreign : fields.has gap.key = false)
    (tagged : gap.key = tag) :
    ((extended name fields tag cases).ofJson origin (.object (gap.fill none))).toOption = none ∧
      ((extended name fields tag cases).ofJson origin (.object (gap.fill (some .null)))).toOption = none := by
  obtain ⟨gone, null⟩ := cases.found?_tag (gap.filter fun key => !fields.has key) tagged
  simp only [toOption_ofJson_extended, Fields.beside_fill foreign, gone, null, Option.bind_none,
    Option.bind_fun_none, and_self]

end Extended

end Shape

/-- A record is read field by field from an object with a gap under a key, or from those of its
members among which the gap is. -/
def ReadsFields {α : Type} (table : List (RecordField α)) (key : String) (json? : Option Json)
    (read : Option Json → Option α) : Prop :=
  ∃ (σ β : Type) (fields : Fields σ β) (build : β → α) (origin : Origin) (gap : Gap) (values : β),
    fields.Conforms build table ∧ gap.key = key ∧ fields.gather origin (gap.fill json?) = some values ∧
      ∀ json?, read json? = (fields.gather origin (gap.fill json?)).map build

namespace ReadsFields

variable {α : Type} {table : List (RecordField α)} {key : String} {json? : Option Json}
  {read : Option Json → Option α}

theorem governs (reads : ReadsFields table key json? read) (distinct : (table.map RecordField.key).Nodup)
    {field : RecordField α} (known : field ∈ table) (named : field.key = key) : field.Governs read := by
  obtain ⟨σ, β, fields, build, origin, gap, values, conforms, rfl, accepted, reads⟩ := reads
  obtain rfl := funext reads
  exact conforms.governs distinct accepted known named.symm

theorem ignores (reads : ReadsFields table key json? read) (foreign : key ∉ table.map RecordField.key)
    (other? : Option Json) : read other? = read json? := by
  obtain ⟨σ, β, fields, build, origin, gap, values, conforms, rfl, accepted, reads⟩ := reads
  have unread : fields.has gap.key = false := by
    rw [Bool.eq_false_iff, Ne, conforms.has_iff values]
    exact foreign
  rw [reads, reads, Fields.gather_fill_foreign origin unread, Fields.gather_fill_foreign origin unread json?]

end ReadsFields

/-- No field of the record has the key of the gap, and neither has a tag. -/
def Record.Ignores (record : Record) (gap : Gap) : Prop :=
  (∀ field ∈ record.fields, field.key = gap.key → ¬ field.On (gap.fill none)) ∧
    ¬ (record = .component ∧ gap.key = "type")

namespace Record

theorem keys_nodup (record : Record) : (record.fields.map RecordField.key).Nodup := by
  cases record <;> decide

theorem kind_eq_none {record : Record} (plain : record ≠ .component) {field : RecordField record.Value}
    (known : field ∈ record.fields) : field.kind = none := by
  have each : record.fields.all (fun field => field.kind.isNone) = true := by
    cases record with
    | component => exact absurd rfl plain
    | _ => rfl
  exact Option.isNone_iff_eq_none.mp (List.all_eq_true.mp each field known)

end Record

theorem RecordField.on_of_kind {α : Type} {field : RecordField α} (every : field.kind = none) (members : Members) :
    field.On members := by
  intro category known
  rw [every] at known
  cases known

end Snapshot

open Snapshot

theorem Category.tags_fill {gap : Gap} (untagged : gap.key ≠ "type") {json? : Option Json} (other? : Option Json)
    {category : Category} (tags : Tags (.object (gap.fill json?)) category) :
    Tags (.object (gap.fill other?)) category := by
  obtain ⟨members, tag, same, only, selected, rest⟩ := tags
  cases same
  rw [gap.values_other _ (Ne.symm untagged)] at only
  exact ⟨_, tag, rfl, (gap.values_other _ (Ne.symm untagged)).trans only, selected, rest⟩

theorem Category.tags_unique {json : Json} {first second : Category} (tags : Tags json first)
    (tags' : Tags json second) : first = second := by
  obtain ⟨members, tag, rfl, only, selected, -⟩ := tags
  obtain ⟨members', tag', same, only', selected', -⟩ := tags'
  cases same
  rw [only, List.cons.injEq] at only'
  rw [only'.1, selected'] at selected
  exact (Option.some.inj selected).symm

namespace Component

theorem kind_of_own {field : RecordField Component} (known : field ∈ ownFields) : field.kind = none := by
  have each : ownFields.all (fun field => field.kind.isNone) = true := rfl
  exact Option.isNone_iff_eq_none.mp (List.all_eq_true.mp each field known)

theorem kind_of_declared {category : Category} {field : RecordField Component}
    (known : field ∈ declaredFields category) : field.kind = some category := by
  cases category with
  | processor | controllerService =>
    obtain ⟨inner, -, rfl⟩ := List.mem_map.mp known
    rfl
  | reportingTask | flowAnalysisRule | parameterProvider => cases known

/-- Of the declared fields a component has those of its own category. -/
theorem mem_fields_iff {field : RecordField Component} {members : Members} {category : Category}
    (tags : Category.Tags (.object members) category) :
    field ∈ fields ∧ field.On members ↔ field ∈ ownFields ∨ field ∈ declaredFields category := by
  have own_of {other : Category} (declared : field ∈ declaredFields other) (on : field.On members) :
      field ∈ declaredFields category :=
    Category.tags_unique (on other (kind_of_declared declared)) tags ▸ declared
  constructor
  · rintro ⟨known, on⟩
    rcases List.mem_append.mp known with known | service
    · rcases List.mem_append.mp known with own | processor
      · exact .inl own
      · exact .inr (own_of processor on)
    · exact .inr (own_of service on)
  · rintro (own | declared)
    · exact ⟨List.mem_append_left _ (List.mem_append_left _ own), RecordField.on_of_kind (kind_of_own own) members⟩
    · have on : field.On members := by
        intro other known
        rw [kind_of_declared declared] at known
        cases known
        exact tags
      refine ⟨?_, on⟩
      cases category with
      | processor => exact List.mem_append_left _ (List.mem_append_right _ declared)
      | controllerService => exact List.mem_append_right _ declared
      | reportingTask | flowAnalysisRule | parameterProvider => cases declared

/-- The fields of a component of one category have different keys, and none is the tag. -/
theorem keys_of_category (category : Category) :
    ("type" :: (ownFields ++ declaredFields category).map RecordField.key).Nodup := by
  cases category <;> decide

theorem key_ne_tag {field : RecordField Component} (known : field ∈ fields) : field.key ≠ "type" := by
  have each : fields.all (fun field => field.key ≠ "type") = true := by decide
  exact of_decide_eq_true (List.all_eq_true.mp each field known)

section Reading

variable {gap : Gap} {origin : Origin} {json? : Option Json} {component : Component}
  (accepted : shape.ofJson origin (.object (gap.fill json?)) = .ok component)

include accepted

/-- Of an object with a gap under the key of one of its own fields, a component is read by these. -/
theorem readsFields_own (known : gap.key ∈ ownFields.map RecordField.key) :
    ReadsFields ownFields gap.key json? fun json? => (shape.ofJson origin (.object (gap.fill json?))).toOption := by
  obtain ⟨σ, β, name, own, build, shaped, -, ownConforms, -⟩ := conforms
  rw [shaped, Shape.ofJson_convert] at accepted
  obtain ⟨⟨values, kind⟩, object, rfl⟩ := map_eq_ok_iff.mp accepted
  have has : own.has gap.key = true := ((ownConforms kind).has_iff values _).mpr known
  refine ⟨σ, β, own, _, origin, gap, values, ownConforms kind, rfl,
    (Shape.ofJson_extended_eq_ok_iff.mp object).1, ?_⟩
  intro json?
  simp only [shaped, Shape.ofJson_convert, toOption_map, Shape.extended_own has object, Option.map_map]
  rfl

/-- With the gap beside them and the tag, it is read by the fields that its category declares. -/
theorem readsFields_declared (foreign : gap.key ∉ ownFields.map RecordField.key) (untagged : gap.key ≠ "type") :
    ReadsFields (declaredFields component.category) gap.key json? fun json? =>
      (shape.ofJson origin (.object (gap.fill json?))).toOption := by
  obtain ⟨σ, β, name, own, build, shaped, built, ownConforms, declares⟩ := conforms
  rw [shaped, Shape.ofJson_convert] at accepted
  obtain ⟨⟨values, kind⟩, object, rfl⟩ := map_eq_ok_iff.mp accepted
  have unread : own.has gap.key = false := by
    rw [Bool.eq_false_iff, Ne, (ownConforms kind).has_iff values]
    exact foreign
  obtain ⟨case, beside, named, read, reads⟩ := Shape.extended_beside unread untagged object
  obtain rfl := Kind.category_of_case read
  obtain ⟨σ', δ, declared, make, cased, declaredConforms⟩ := declares kind.category
  have gathered : (declared.gather .setAside (beside.fill json?)).map make = some kind := by
    rw [← cased, read]
    rfl
  obtain ⟨inner, gathered, -⟩ := Option.map_eq_some_iff.mp gathered
  rw [Component.category, built]
  refine ⟨σ', δ, declared, _, .setAside, beside, inner, declaredConforms values, named, gathered, ?_⟩
  intro json?
  simp only [shaped, Shape.ofJson_convert, toOption_map, reads, cased, Option.map_map]
  rfl

/-- A component is not read without its tag, nor with `null` for it. -/
theorem read_untagged (tagged : gap.key = "type") :
    (shape.ofJson origin (.object (gap.fill none))).toOption = none ∧
      (shape.ofJson origin (.object (gap.fill (some .null)))).toOption = none := by
  obtain ⟨σ, β, name, own, build, shaped, -, ownConforms, -⟩ := conforms
  rw [shaped, Shape.ofJson_convert] at accepted
  obtain ⟨⟨values, kind⟩, -, -⟩ := map_eq_ok_iff.mp accepted
  have unread : own.has gap.key = false := by
    rw [Bool.eq_false_iff, Ne, (ownConforms kind).has_iff values, tagged]
    decide
  obtain ⟨gone, null⟩ := Shape.extended_tag name Kind.cases origin unread tagged
  simp only [shaped, Shape.ofJson_convert, toOption_map]
  rw [gone, null]
  exact ⟨rfl, rfl⟩

end Reading

end Component

namespace Snapshot.Record

section Reading

variable {record : Record} {gap : Gap} {origin : Origin} {json? : Option Json} {part : record.Value}
  (accepted : record.shape.ofJson origin (.object (gap.fill json?)) = .ok part)

include accepted

theorem readsFields (plain : record ≠ .component) : ReadsFields record.fields gap.key json? fun json? =>
    (record.shape.ofJson origin (.object (gap.fill json?))).toOption := by
  obtain ⟨σ, β, name, fields, build, shape, conforms⟩ := record.conforms plain
  rw [shape, Shape.ofJson_convert] at accepted
  obtain ⟨values, object, -⟩ := map_eq_ok_iff.mp accepted
  refine ⟨σ, β, fields, build, origin, gap, values, conforms, rfl, Shape.ofJson_record_eq_ok_iff.mp object, ?_⟩
  intro json?
  simp only [shape, Shape.ofJson_convert, toOption_map, Shape.toOption_ofJson_record]

/-- A field that the record has governs what it is read as. -/
theorem governs {field : RecordField record.Value} (known : field ∈ record.fields) (named : field.key = gap.key)
    (on : field.On (gap.fill none)) :
    field.Governs fun json? => (record.shape.ofJson origin (.object (gap.fill json?))).toOption := by
  by_cases plain : record = .component
  · subst plain
    have untagged : gap.key ≠ "type" := named ▸ Component.key_ne_tag known
    have tags := Category.tags_fill untagged none (Component.tags_of_ok accepted)
    have distinct := Component.keys_of_category (Component.category part)
    rw [List.nodup_cons, List.map_append, List.nodup_append'] at distinct
    obtain ⟨-, ownDistinct, declaredDistinct, apart⟩ := distinct
    -- The tag of the accepted object, which the gap leaves alone, tells whose declared fields count.
    rcases (Component.mem_fields_iff tags).mp ⟨known, on⟩ with own | declared
    · exact (Component.readsFields_own accepted (named ▸ List.mem_map_of_mem own)).governs ownDistinct own named
    · have foreign : gap.key ∉ Component.ownFields.map RecordField.key := by
        rw [← named]
        exact fun own => apart own (List.mem_map_of_mem declared)
      exact (Component.readsFields_declared accepted foreign untagged).governs declaredDistinct declared named
  · exact (readsFields accepted plain).governs record.keys_nodup known named

theorem ignores (unknown : record.Ignores gap) (other? : Option Json) :
    (record.shape.ofJson origin (.object (gap.fill other?))).toOption = some part := by
  have same {table : List (RecordField record.Value)} (reads : ReadsFields table gap.key json? fun json? =>
      (record.shape.ofJson origin (.object (gap.fill json?))).toOption)
      (within : ∀ field ∈ table, field ∈ record.fields ∧ field.On (gap.fill none)) :
      (record.shape.ofJson origin (.object (gap.fill other?))).toOption = some part := by
    have foreign : gap.key ∉ table.map RecordField.key := by
      intro inside
      obtain ⟨field, there, named⟩ := List.mem_map.mp inside
      obtain ⟨known, on⟩ := within field there
      exact unknown.1 field known named on
    rw [reads.ignores foreign other?, accepted]
    rfl
  by_cases plain : record = .component
  · subst plain
    have untagged : gap.key ≠ "type" := fun tagged => unknown.2 ⟨rfl, tagged⟩
    have tags := Category.tags_fill untagged none (Component.tags_of_ok accepted)
    have foreign : gap.key ∉ Component.ownFields.map RecordField.key := by
      intro inside
      obtain ⟨field, own, named⟩ := List.mem_map.mp inside
      obtain ⟨known, on⟩ := (Component.mem_fields_iff tags).mpr (.inl own)
      exact unknown.1 field known named on
    exact same (Component.readsFields_declared accepted foreign untagged) fun field declared =>
      (Component.mem_fields_iff tags).mpr (.inr declared)
  · exact same (readsFields accepted plain) fun field known =>
      ⟨known, RecordField.on_of_kind (kind_eq_none plain known) _⟩

end Reading

end Snapshot.Record

end ComponentDocs
