import ComponentDocs.Proofs.Snapshot.Governing

/-! Records inside a record, however deep. Reading the whole comes to reading the inner record and
putting it into its frame. -/
namespace ComponentDocs.Snapshot

open Json (Gap Members)

/-- An item of a list makes a difference to the field of its position only. -/
theorem Fields.Conforms.reads_item {σ β α : Type} {fields : Fields σ β} {build : β → α}
    {table : List (RecordField α)} (conforms : fields.Conforms build table) {origin : Origin} {expected : String} {position : Nat}
    {before after : List Json} {json : Json} {values : β} {left : List Json} {field : RecordField α}
    (known : table[before.length]? = some field)
    (accepted : fields.ofItems origin expected position (before ++ json :: after) = .ok (values, left)) :
    ∃ (γ : Type) (shape : Shape γ) (set : γ → β), field.contents.Fits shape (fun value => build (set value)) ∧
      ∀ json, (fields.ofItems origin expected position (before ++ json :: after)).toOption =
        (shape.ofJson origin json).toOption.map fun value => (set value, left) := by
  induction conforms generalizing before position left with
  | nil => cases known
  | @cons σ β γ α key shape default more build first others named presence contents rest ih =>
    cases before with
    | nil =>
      cases known
      rw [List.nil_append, ofItems] at accepted
      cases head : shape.ofJson origin json with
      | error mismatch => simp [head] at accepted
      | ok value =>
        simp only [head] at accepted
        obtain ⟨⟨behind, _⟩, tail, same⟩ := map_eq_ok_iff.mp accepted
        cases same
        refine ⟨γ, shape, fun value => (value, behind), contents behind, ?_⟩
        intro json
        rw [List.nil_append, ofItems]
        simp only [tail]
        cases shape.ofJson origin json <;> rfl
    | cons item before =>
      rw [List.cons_append, ofItems] at accepted
      cases head : shape.ofJson origin item with
      | error mismatch => simp [head] at accepted
      | ok value =>
        simp only [head] at accepted
        obtain ⟨⟨behind, _⟩, tail, same⟩ := map_eq_ok_iff.mp accepted
        cases same
        obtain ⟨δ, inner, set, fits, reads⟩ := ih value known tail
        refine ⟨δ, inner, fun part => (value, set part), fits, ?_⟩
        intro json
        rw [List.cons_append, ofItems]
        simp only [head]
        rw [toOption_map, reads, Option.map_map]
        rfl

/-- Apart from what stands in the spot, the record is read as it was. -/
theorem Spot.reads {record : Record} {field : RecordField record.Value} {around : Json → Json}
    (spot : Spot field around) {origin : Origin} {json : Json} {value : record.Value}
    (accepted : record.shape.ofJson origin (around json) = .ok value) :
    ∃ (γ : Type) (shape : Shape γ) (origin' : Origin) (set : γ → record.Value), field.contents.Fits shape set ∧
      ∀ json, (record.shape.ofJson origin (around json)).toOption =
        (shape.ofJson origin' json).toOption.map set := by
  cases spot with
  | key gap known named on =>
    obtain ⟨γ, shape, default, origin', set, -, fits, reads⟩ := record.governs accepted known named.symm on
    exact ⟨γ, shape, origin', set, fits, fun json => reads (some json)⟩
  | position before after known listed =>
    obtain ⟨σ, β, name, fields, build, shaped, conforms⟩ := record.conforms listed
    rw [shaped, Shape.ofJson_convert] at accepted
    obtain ⟨values, listed, -⟩ := map_eq_ok_iff.mp accepted
    rw [Shape.ofJson_record_items] at listed
    obtain ⟨⟨_, left⟩, items, rest⟩ := bind_eq_ok_iff.mp listed
    obtain ⟨_, checked, -⟩ := map_eq_ok_iff.mp rest
    obtain ⟨γ, shape, set, fits, reads⟩ := conforms.reads_item known items
    refine ⟨γ, shape, origin, fun value => build (set value), fits, ?_⟩
    intro json
    simp only [shaped, Shape.ofJson_convert, Shape.ofJson_record_items, toOption_map, toOption_bind, reads,
      Option.bind_map]
    cases shape.ofJson origin json with
    | error mismatch => rfl
    | ok value =>
      simp only [Except.toOption, Function.comp_apply, checked, Option.bind_some]
      rfl

namespace Record

variable {inner : Record} {origin : Origin}

theorem reads_of_mapM {items : List Json} {values : List inner.Value}
    (read : items.mapM (inner.shape.ofJson origin) = .ok values) : List.Forall₂ inner.Reads items values :=
  (mapM_eq_ok_iff.mp read).imp fun _ _ accepted => ⟨origin, accepted⟩

theorem reads_of_mapM_entries {members : Members} {entries : List (String × inner.Value)}
    (read : members.mapM (fun member =>
      (inner.shape.ofJson origin member.2).map fun value => (member.1, value)) = .ok entries) :
    List.Forall₂ (fun member entry => member.1 = entry.1 ∧ inner.Reads member.2 entry.2) members entries := by
  refine (mapM_eq_ok_iff.mp read).imp fun member entry accepted => ?_
  obtain ⟨value, read, rfl⟩ := map_eq_ok_iff.mp accepted
  exact ⟨rfl, origin, read⟩

/-- A record in a list makes a difference to its item only. -/
theorem reads_in_list {before after : List Json} {json : Json} {values : List inner.Value}
    (accepted : (Shape.list inner.shape).ofJson origin (.array (before ++ json :: after)) = .ok values) :
    ∃ first rest, List.Forall₂ inner.Reads before first ∧ List.Forall₂ inner.Reads after rest ∧ ∀ json,
      ((Shape.list inner.shape).ofJson origin (.array (before ++ json :: after))).toOption =
        (inner.shape.ofJson origin json).toOption.map fun value => first ++ value :: rest := by
  rw [Shape.ofJson] at accepted
  obtain ⟨first, rest, earlier, later, same⟩ := toOption_mapM_replace accepted
  refine ⟨first, rest, reads_of_mapM earlier, reads_of_mapM later, ?_⟩
  intro json
  rw [Shape.ofJson, same]

/-- A record in a table makes a difference to its entry only. -/
theorem reads_in_table {before after : Members} {key : String} {json : Json}
    {entries : List (String × inner.Value)}
    (accepted : (Shape.table inner.shape).ofJson origin (.object (before ++ (key, json) :: after)) = .ok entries) :
    ∃ first rest,
      List.Forall₂ (fun member entry => member.1 = entry.1 ∧ inner.Reads member.2 entry.2) before first ∧
      List.Forall₂ (fun member entry => member.1 = entry.1 ∧ inner.Reads member.2 entry.2) after rest ∧ ∀ json,
        ((Shape.table inner.shape).ofJson origin (.object (before ++ (key, json) :: after))).toOption =
          (inner.shape.ofJson origin json).toOption.map fun value => first ++ (key, value) :: rest := by
  rw [Shape.ofJson] at accepted
  obtain ⟨first, rest, earlier, later, same⟩ := toOption_mapM_replace accepted
  refine ⟨first, rest, reads_of_mapM_entries earlier, reads_of_mapM_entries later, ?_⟩
  intro json
  rw [Shape.ofJson, same, toOption_map, Option.map_map]
  rfl

end Record

/-- A record among the contents of a field is put into the field with those beside it. It stands
for itself; where there is none, there is `null`. -/
theorem Contents.Fits.keeps {α γ : Type} {contents : Contents α} {shape : Shape γ} {set : γ → α}
    (fits : contents.Fits shape set) {inner : Record} {within : Json → Json} (has : contents.Has inner within)
    {origin : Origin} {json : Json} {value : γ} (accepted : shape.ofJson origin (within json) = .ok value) :
    ∃ put, contents.Keeps inner within put ∧ ∀ json ≠ .null,
      (shape.ofJson origin (within json)).toOption.map set =
        (inner.shape.ofJson origin json).toOption.map fun part => put part (set value) := by
  cases has with
  | record =>
    refine ⟨_, .record, ?_⟩
    intro json filled
    cases fits with
    | record puts => simp only [puts]
    | optional puts =>
      simp only [Shape.ofJson_optional filled, toOption_map, Option.map_map, puts]
      rfl
  | item before after =>
    cases fits with
    | list puts =>
      obtain ⟨first, rest, earlier, later, same⟩ := Record.reads_in_list accepted
      refine ⟨_, .item earlier later, ?_⟩
      intro json _
      simp only [same, Option.map_map, puts]
      rfl
    | built build puts =>
      rw [Shape.ofJson_convert] at accepted
      obtain ⟨values, listed, -⟩ := map_eq_ok_iff.mp accepted
      obtain ⟨first, rest, earlier, later, same⟩ := Record.reads_in_list listed
      refine ⟨_, .item earlier later, ?_⟩
      intro json _
      simp only [Shape.ofJson_convert, toOption_map, same, Option.map_map, puts]
      rfl
  | entry before key after =>
    cases fits with
    | table build puts =>
      rw [Shape.ofJson_convert] at accepted
      obtain ⟨entries, tabled, -⟩ := map_eq_ok_iff.mp accepted
      obtain ⟨first, rest, earlier, later, same⟩ := Record.reads_in_table tabled
      refine ⟨_, .entry earlier later, ?_⟩
      intro json _
      simp only [Shape.ofJson_convert, toOption_map, same, Option.map_map, puts]
      rfl

theorem Inside.ne_null {outer inner : Record} {write : Json → Json} (inside : Inside outer inner write) {json : Json}
    (filled : json ≠ .null) : write json ≠ .null := by
  cases inside with
  | here => exact filled
  | deeper spot => cases spot <;> exact Json.noConfusion

/-- However deep a record stands inside an accepted one, the whole is read as the record in its
frame. -/
theorem Inside.reads {outer inner : Record} {write : Json → Json} (inside : Inside outer inner write)
    {origin : Origin} {json : Json} {value : outer.Value} (filled : json ≠ .null)
    (accepted : outer.shape.ofJson origin (write json) = .ok value) :
    ∃ origin' fill, Frame outer inner write fill ∧ ∀ json ≠ .null,
      (outer.shape.ofJson origin (write json)).toOption = (inner.shape.ofJson origin' json).toOption.map fill := by
  induction inside generalizing origin with
  | here record => exact ⟨origin, _, .here record, fun json _ => Option.map_id'.symm⟩
  | @deeper outer middle inner field around within write spot has inside ih =>
    -- From the outside in: the field is read, then the record among its contents, then what is inside.
    obtain ⟨γ, shape, outerOrigin, set, fits, reads⟩ := spot.reads accepted
    have whole := reads (within (write json))
    rw [accepted] at whole
    obtain ⟨held, holds, -⟩ := Option.map_eq_some_iff.mp whole.symm
    obtain ⟨put, keeps, puts⟩ := fits.keeps has (toOption_eq_some_iff.mp holds)
    have part := puts (write json) (inside.ne_null filled)
    rw [holds] at part
    obtain ⟨inner, read, -⟩ := Option.map_eq_some_iff.mp part.symm
    obtain ⟨origin', fill, frame, fills⟩ := ih (toOption_eq_some_iff.mp read)
    refine ⟨origin', _, .deeper spot keeps (set held) frame, ?_⟩
    intro json filled
    rw [reads, puts _ (inside.ne_null filled), fills json filled, Option.map_map]
    rfl

end ComponentDocs.Snapshot
