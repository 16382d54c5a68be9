import ComponentDocs.Proofs.Snapshot.Inside

/-! Snapshots that leave things out. Apart from a few keys that a snapshot must have, every key
of every record may be missing; its field then has its default and the rest of the snapshot
stays. `null` stands for a missing optional field, and for no other. -/
namespace ComponentDocs.Snapshot

open Json (Gap)

/-- A frame around the record makes no difference to what becomes of a field. -/
theorem Presence.Degrades.within {α β : Type} {presence : Presence α} {part : α} {fill : α → β}
    {read : Option Json → Option β} {readPart : Option Json → Option α}
    (same : ∀ json?, read json? = (readPart json?).map fill) (degrades : presence.Degrades part id readPart) :
    presence.Degrades part fill read := by
  cases presence with
  | needed =>
    obtain ⟨absent, null⟩ := degrades
    exact ⟨by rw [same, absent, Option.map_none], by rw [same, null, Option.map_none]⟩
  | defaulted reset =>
    obtain ⟨absent, null⟩ := degrades
    exact ⟨by rw [same, absent, Option.map_some, id], by rw [same, null, Option.map_none]⟩
  | optional reset =>
    obtain ⟨absent, null⟩ := degrades
    exact ⟨by rw [same, absent, Option.map_some, id], by rw [same, null, ← same]⟩

/-- What becomes of a snapshot when another value, none, or `null` stands under a key of a record
in it. `part` is the record and `fill` puts it into the snapshot. -/
structure Record.Degrades {β : Type} (record : Record) (gap : Gap) (part : record.Value) (fill : record.Value → β)
    (read : Option Json → Option β) : Prop where
  field : ∀ field ∈ record.fields, field.key = gap.key → field.On (gap.fill none) →
    field.presence.Degrades part fill read
  tag : record = .component → gap.key = "type" → read none = none ∧ read (some .null) = none
  unknown : record.Ignores gap → ∀ json?, read json? = some (fill part)

theorem Record.degrades {record : Record} {gap : Gap} {origin : Origin} {json? : Option Json} {part : record.Value}
    (accepted : record.shape.ofJson origin (.object (gap.fill json?)) = .ok part) :
    record.Degrades gap part id fun json? => (record.shape.ofJson origin (.object (gap.fill json?))).toOption where
  field field known named on := (governs accepted known named on).degrades (toOption_eq_some_iff.mpr accepted)
  tag isComponent tagged := by
    subst isComponent
    exact Component.read_untagged accepted tagged
  unknown := ignores accepted

theorem Record.Degrades.within {β : Type} {record : Record} {gap : Gap} {part : record.Value}
    {fill : record.Value → β} {read : Option Json → Option β} {readPart : Option Json → Option record.Value}
    (same : ∀ json?, read json? = (readPart json?).map fill) (degrades : record.Degrades gap part id readPart) :
    record.Degrades gap part fill read where
  field field known named on := (degrades.field field known named on).within same
  tag isComponent tagged := by
    obtain ⟨absent, null⟩ := degrades.tag isComponent tagged
    exact ⟨by rw [same, absent, Option.map_none], by rw [same, null, Option.map_none]⟩
  unknown foreign json? := by rw [same, degrades.unknown foreign, Option.map_some, id]

/-- Snapshots degrade gracefully. Take a key away from any object that is read as a record, in an
accepted component, request or other record: a field that is not needed then has its default, in a
snapshot that is otherwise the same, an unknown key makes no difference, and without a needed field
or the tag nothing is accepted. Under an optional field `null` is as good as nothing; under any
other, and as the tag, it is refused. -/
theorem degrades_gracefully {root record : Record} {write : Json → Json} (inside : Inside root record write)
    {origin : Origin} {gap : Gap} {json? : Option Json} {value : root.Value}
    (accepted : root.shape.ofJson origin (write (.object (gap.fill json?))) = .ok value) :
    ∃ fill part, Frame root record write fill ∧ value = fill part ∧ record.Degrades gap part fill fun json? =>
      (root.shape.ofJson origin (write (.object (gap.fill json?)))).toOption := by
  have filled (json? : Option Json) : Json.object (gap.fill json?) ≠ .null := Json.noConfusion
  obtain ⟨origin', fill, frame, reads⟩ := inside.reads (filled json?) accepted
  have whole := reads _ (filled json?)
  rw [accepted] at whole
  obtain ⟨part, read, same⟩ := Option.map_eq_some_iff.mp whole.symm
  refine ⟨fill, part, frame, same.symm, ?_⟩
  apply (record.degrades (toOption_eq_some_iff.mp read)).within
  exact fun json? => reads _ (filled json?)

/-- A processor but for its relationships. -/
def relationshipsGap : Gap where
  key := "relationships"
  before := [("className", .string "P"), ("type", .string "PROCESSOR")]
  after := []
  fresh := by decide

def nameGap : Gap where
  key := "name"
  before := []
  after := [("description", .string "Failed files")]
  fresh := by decide

/-- A processor with two relationships. -/
def processorNaming (name? : Option Json) : Json :=
  .object (relationshipsGap.fill (some (.array
    [.object [("name", .string "success")], .object (nameGap.fill name?)])))

/-- A name that is not there is empty when the set of relationships is built. -/
example : Component.shape.ofJson .parsed (processorNaming none) = .ok
    { className := "P"
      kind := .processor
        { relationships := .ofList [{ name := "success" }, { description := "Failed files" }] } } := by cbv

theorem degrades_gracefully_without_name :
    ∃ component fill relationship,
      Component.shape.ofJson .parsed (processorNaming (some (.string "failure"))) = .ok component ∧
      component = fill relationship ∧
      Record.Degrades .relationship nameGap relationship fill fun name? =>
        (Component.shape.ofJson .parsed (processorNaming name?)).toOption := by
  have spot : @Spot .component Component.fields[15] fun json =>
      .object (relationshipsGap.fill (some json)) := by
    refine .key relationshipsGap (List.getElem_mem _) rfl fun category kind => ?_
    cases kind
    exact ⟨_, _, rfl, rfl, rfl, Category.named_iff_of_ofTag rfl⟩
  have inside : Inside .component .relationship fun json =>
      .object (relationshipsGap.fill (some (.array ([.object [("name", .string "success")]] ++ json :: [])))) :=
    .deeper spot (.item [.object [("name", .string "success")]] []) (.here .relationship)
  have accepted : Component.shape.ofJson .parsed (processorNaming (some (.string "failure"))) = .ok
      { className := "P"
        kind := .processor { relationships := .ofList [{ name := "success" },
          { name := "failure", description := "Failed files" }] } } := by cbv
  obtain ⟨fill, relationship, -, same, degrades⟩ := degrades_gracefully inside accepted
  exact ⟨_, fill, relationship, accepted, same, degrades⟩

end ComponentDocs.Snapshot
