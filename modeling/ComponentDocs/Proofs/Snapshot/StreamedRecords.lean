import ComponentDocs.Proofs.Snapshot.Gathering
import ComponentDocs.Proofs.Snapshot.Streaming

/-! Records that are read from a text directly. Members fill the slots of their fields while the
text goes on; unknown ones are passed over, or set aside for the case that the tag names. -/
namespace ComponentDocs.Snapshot

open Json (Cursor ItemsRead MembersRead Members)

variable {α β σ : Type}

namespace Fields

theorem fill_of_not_has : {σ β : Type} → (fields : Fields σ β) → (origin : Origin) → {key : String} → (json : Json) →
    (slots : σ) → fields.has key = false → fields.fill origin key json slots = .ok slots
  | _, _, .nil, _, _, _, (), _ => rfl
  | _, _, .cons name _ _ more, origin, key, json, (slot, slots), unknown => by
    rw [has, Bool.or_eq_false_iff, beq_eq_false_iff_ne] at unknown
    simp only [fill, if_neg unknown.1, more.fill_of_not_has origin json slots unknown.2, Except.map]

/-- A member is read into the slot of its field, or passed over. -/
theorem fillFromText_alike : {σ β : Type} → (fields : Fields σ β) → fields.Streams → {levels : Nat} → (key : String) →
    (slots : σ) → {cursor start behind : Cursor} → {json : Json} → Json.readColon cursor = .ok start →
    Json.readValue id levels start = .ok (json, behind) →
    (∃ reading, fields.fillFromText levels key slots cursor = some reading ∧ fields.has key ∧
      Alike (EndsAt behind) reading (fields.fill .parsed key json slots)) ∨
    (fields.fillFromText levels key slots cursor = none ∧ fields.has key = false)
  | _, _, .nil, _, _, _, (), _, _, _, _, _, _ => .inr ⟨rfl, rfl⟩
  | _, _, .cons name shape default more, streams, levels, key, (slot, slots), cursor, start, behind, json, colon,
    read => by
    by_cases same : key = name
    · simp only [fillFromText, fill, if_pos same]
      refine .inl ⟨_, rfl, by simp [has, same], ?_⟩
      cases slot with
      | some value => exact .neither _ _
      | none =>
        simp only [colon]
        exact EndsAt.build (streams.1 levels start json behind read) fun value => (some value, slots)
    · simp only [fillFromText, fill, if_neg same]
      have known : (cons name shape default more).has key = more.has key := by
        rw [has, beq_eq_false_iff_ne.mpr same, Bool.false_or]
      rw [known]
      rcases more.fillFromText_alike streams.2 key slots colon read with
        ⟨reading, found, isField, alike⟩ | ⟨found, noField⟩
      · rw [found]
        refine .inl ⟨_, rfl, isField, ?_⟩
        generalize more.fill .parsed key json slots = filled at alike ⊢
        cases alike with
        | both same =>
          rw [same]
          exact .both rfl
        | neither error error' => exact .neither _ _
      · rw [found]
        exact .inr ⟨rfl, noField⟩

/-- A reader of fields stops before the items that it leaves. -/
def Leaves (levels : Nat) (last : Cursor) (result : β × Cursor) (result' : β × List Json) : Prop :=
  result.1 = result'.1 ∧ ∃ steps first, ItemsRead id levels steps first result.2 result'.2 last

theorem Leaves.cons {ε ε' : Type} {levels : Nat} {last : Cursor} {direct : Except ε (β × Cursor)}
    {indirect : Except ε' (β × List Json)} (alike : Alike (Leaves levels last) direct indirect) (value : α) :
    Alike (Leaves levels last) (do let (values, cursor) ← direct; return ((value, values), cursor))
      (indirect.map fun (values, rest) => ((value, values), rest)) := by
  cases alike with
  | both holds => exact .both ⟨congrArg (Prod.mk value) holds.1, holds.2⟩
  | neither error error' => exact .neither error error'

/-- Fields are read from the items of a list as far as it goes. -/
theorem ofTextItems_alike : {σ β : Type} → (fields : Fields σ β) → fields.Streams → (expected : String) →
    (read : Nat) → {levels steps : Nat} → {cursor last : Cursor} → {items : List Json} →
    ItemsRead id levels steps (read == 0) cursor items last →
    Alike (Leaves levels last) (fields.ofTextItems expected read levels cursor)
      (fields.ofItems .parsed expected read items)
  | _, _, .nil, _, _, _, _, _, _, _, _, inside => .both ⟨rfl, _, _, inside⟩
  | _, _, .cons name shape default more, streams, expected, read, levels, steps, cursor, last, items, inside => by
    rw [ofTextItems]
    cases inside with
    | ended found =>
      obtain ⟨rfl, rest, bracket⟩ := Json.nextItem_eq_false found
      have again : Json.nextItem (read + 1 == 0) cursor.skipBlank = .ok (false, cursor.skipBlank) := by
        simp only [Json.nextItem, Cursor.skipBlank_skipBlank, bracket]
      have ended : ItemsRead id levels 1 (read + 1 == 0) cursor.skipBlank [] cursor.skipBlank := .ended again
      rw [found]
      cases default with
      | none => exact .neither _ _
      | some value => exact Leaves.cons (more.ofTextItems_alike streams.2 expected (read + 1) ended) value
    | @item _ _ _ next after _ json items found here others =>
      have rest := more.ofTextItems_alike streams.2 expected (read + 1) others
      have first := streams.1 _ _ _ _ here
      rw [found]
      simp only [ofItems]
      change Alike _
        (shape.ofText levels next >>= fun result =>
          more.ofTextItems expected (read + 1) levels result.2 >>= fun others =>
            pure ((result.1, others.1), others.2)) _
      generalize shape.ofText levels next = direct, shape.ofJson .parsed json = indirect at first ⊢
      cases first with
      | both same =>
        rw [same]
        exact Leaves.cons rest _
      | neither error mismatch => exact .neither _ _

/-- A list of fields is closed when no items are left. -/
theorem Leaves.close {levels : Nat} (size : Nat) {last behind : Cursor} {direct : Except ReadError (β × Cursor)}
    {indirect : Except Mismatch (β × List Json)} (alike : Alike (Leaves levels last) direct indirect)
    (ended : Json.endList last = .ok behind) :
    Alike (EndsAt behind) (do let (values, cursor) ← direct; return (values, ← lift (Json.endList cursor)))
      (indirect >>= fun (values, rest) => (checkRest .parsed size rest).map fun () => values) := by
  refine alike.bind ?_
  rintro ⟨values, cursor⟩ ⟨values', rest⟩ ⟨same, steps, first, inside⟩
  obtain rfl : values = values' := same
  change Alike _ (lift (Json.endList cursor) >>= fun cursor => pure (values, cursor)) _
  cases inside with
  | ended found =>
    obtain ⟨rfl, more, bracket⟩ := Json.nextItem_eq_false found
    have closed : Json.endList cursor = .ok behind := by
      rw [← ended]
      simp only [Json.endList, Cursor.skipBlank_skipBlank]
    rw [closed]
    exact .both rfl
  | item found =>
    obtain ⟨start, rfl, nonempty, noBracket, place⟩ := Json.nextItem_eq_true found
    cases closed : Json.endList cursor with
    | error fault => exact .neither _ _
    | ok behind' =>
      obtain ⟨⟨more, bracket⟩, -⟩ := Json.endList_eq_ok closed
      split at place
      · subst place
        exact absurd bracket (noBracket more)
      · obtain ⟨⟨tail, comma⟩, -⟩ := place
        rw [comma] at bracket
        cases bracket

/-- The members of a record fill its slots in the order of the text. -/
theorem fillAll_alike {fields : Fields σ α} (streams : fields.Streams) {levels : Nat} {cursor last : Cursor}
    {members : Members} (inside : MembersRead id levels (cursor.rest.length + 1) true cursor members last) :
    Alike (EndsAt last)
      (Json.membersOf ReadError.fault
        (fun key slots cursor =>
          match fields.fillFromText levels key slots cursor with
          | some reading => reading
          | none => do
            let cursor ← lift (Json.readColon cursor)
            return (slots, ← lift (Json.skipValue cursor)))
        fields.blank cursor)
      (fields.fillAll .parsed members fields.blank) := by
  refine foldMembers_alike (fun key slots next start json after colon read => ?_) inside fields.blank
  rcases fields.fillFromText_alike streams key slots colon read with ⟨reading, found, -, alike⟩ | ⟨found, unknown⟩
  · rw [found]
    exact alike
  · rw [found, fields.fill_of_not_has .parsed json slots unknown, colon]
    simp only [lift, bind, Except.bind, Json.skipValue_of_read read]
    exact .both rfl

/-- Reads the member of a field into its slot, and sets all others aside. -/
def fillOrSetAside (fields : Fields σ α) (origin : Origin) (soFar : σ × Members) (member : String × Json) :
    Except Mismatch (σ × Members) :=
  if fields.has member.1 then
    (fields.fill origin member.1 member.2 soFar.1).map fun slots => (slots, soFar.2)
  else .ok (soFar.1, member :: soFar.2)

/-- What is set aside does not matter to the slots. -/
theorem foldlM_fillOrSetAside (fields : Fields σ α) (origin : Origin) (members : Members) (slots : σ)
    (setAside : Members) :
    members.foldlM (fields.fillOrSetAside origin) (slots, setAside) =
      (fields.fillAll origin members slots).map fun slots =>
        (slots, (members.filter fun member => !fields.has member.1).reverse ++ setAside) := by
  induction members generalizing slots setAside with
  | nil => rfl
  | cons member members ih =>
    rw [List.foldlM_cons, fillAll, List.foldlM_cons]
    cases known : fields.has member.1 with
    | true =>
      simp only [fillOrSetAside, known, if_true]
      cases fields.fill origin member.1 member.2 slots with
      | error mismatch => rfl
      | ok filled =>
        refine (ih filled setAside).trans ?_
        simp only [known, List.filter_cons, Bool.not_true, Bool.false_eq_true, if_false]
        rfl
    | false =>
      simp only [fillOrSetAside, known, fields.fill_of_not_has origin member.2 slots known]
      refine (ih slots (member :: setAside)).trans ?_
      simp only [known, List.filter_cons, Bool.not_false, if_true, List.reverse_cons, List.append_assoc,
        List.singleton_append]
      rfl

/-- The members of an extended record fill its slots, or are set aside, in the order of the text. -/
theorem setAside_alike {fields : Fields σ α} (streams : fields.Streams) {levels : Nat} {cursor last : Cursor}
    {members : Members} (inside : MembersRead id levels (cursor.rest.length + 1) true cursor members last) :
    Alike (EndsAt last)
      (Json.membersOf ReadError.fault
        (fun key (slots, setAside) cursor =>
          match fields.fillFromText levels key slots cursor with
          | some reading => do
            let (slots, cursor) ← reading
            return ((slots, setAside), cursor)
          | none => do
            let cursor ← lift (Json.readColon cursor)
            let (json, cursor) ← lift (Json.readValue id levels cursor)
            return ((slots, (key, json) :: setAside), cursor))
        (fields.blank, []) cursor)
      (members.foldlM (fields.fillOrSetAside .parsed) (fields.blank, [])) := by
  refine foldMembers_alike (fun key soFar next start json after colon read => ?_) inside (fields.blank, [])
  obtain ⟨slots, setAside⟩ := soFar
  rcases fields.fillFromText_alike streams key slots colon read with ⟨reading, found, known, alike⟩ | ⟨found, unknown⟩
  · rw [fillOrSetAside, if_pos known]
    simp only [found]
    exact EndsAt.build alike fun slots => (slots, setAside)
  · rw [fillOrSetAside, if_neg (by simp [unknown]), colon]
    simp only [found, lift, bind, Except.bind, read]
    exact .both rfl

end Fields

namespace Shape

theorem streams_record (name : String) {fields : Fields σ α} (streams : fields.Streams) :
    (record name fields).Streams := by
  intro levels cursor json behind read
  rw [ofText]
  cases Json.reading_of_ok read with
  | scalar begun =>
    split
    · next tail brace => exact absurd brace (Json.ne_of_scalar begun (.inr rfl) tail)
    · next tail bracket => exact absurd bracket (Json.ne_of_scalar begun (.inl rfl) tail)
    · cases Json.scalar_of_ok begun <;> exact .neither _ _
  | @list levels _ last _ _ items begun inside ended =>
    have listed := fields.ofTextItems_alike streams ("struct " ++ name ++ " with " ++ Mismatch.counted fields.size) 0
      inside
    have closed := Fields.Leaves.close fields.size listed ended
    rw [ofJson_record_items]
    simp only [begun]
    exact closed
  | @object levels _ last _ _ members begun inside ended =>
    have closed := EndsAt.close (Fields.fillAll_alike streams inside) ended fun slots =>
      Alike.of_mapError (fields.finish slots) (fun missing => ReadError.mismatch (.missingField missing))
        .missingField
    rw [id_eq, ofJson_record]
    simp only [begun]
    exact closed

/-- An extended record is read in one pass over the members, and its case from what is set aside. -/
theorem ofJson_extended (name tag : String) (fields : Fields σ α) (cases : Cases β) (origin : Origin)
    (members : Members) :
    (extended name fields tag cases).ofJson origin (.object members) =
      members.foldlM (fields.fillOrSetAside origin) (fields.blank, []) >>= fun (slots, setAside) =>
        (fields.finish slots).mapError .missingField >>= fun values =>
          caseOfMembers .setAside tag cases.names setAside.reverse >>= fun (case, others) =>
            (cases.ofJson tag case (.object others)).map fun value => (values, value) := by
  rw [fields.foldlM_fillOrSetAside, ofJson, Fields.fillAll]
  cases members.foldlM (fun slots member => fields.fill origin member.1 member.2 slots) fields.blank with
  | error mismatch => rfl
  | ok slots =>
    simp only [Except.map, bind, Except.bind, List.append_nil, List.reverse_reverse]
    cases fields.finish slots with
    | error missing => rfl
    | ok values =>
      simp only [Except.mapError]
      cases caseOfMembers .setAside tag cases.names (members.filter fun member => !fields.has member.1) <;> rfl

theorem streams_extended (name tag : String) {fields : Fields σ α} (cases : Cases β) (streams : fields.Streams) :
    (extended name fields tag cases).Streams := by
  intro levels cursor json behind read
  rw [ofText]
  cases Json.reading_of_ok read with
  | scalar begun =>
    split
    · next tail brace => exact absurd brace (Json.ne_of_scalar begun (.inr rfl) tail)
    · cases Json.scalar_of_ok begun <;> exact .neither _ _
  | list begun =>
    simp only [begun]
    exact .neither _ _
  | @object levels _ last _ _ members begun inside ended =>
    rw [id_eq, ofJson_extended]
    simp only [begun, enter_bind]
    refine (Fields.setAside_alike streams inside).bind ?_
    rintro _ ⟨slots, setAside⟩ rfl
    cases fields.finish slots with
    | error missing => exact .neither _ _
    | ok values =>
      simp only [Except.mapError, bind, Except.bind]
      cases caseOfMembers .setAside tag cases.names setAside.reverse with
      | error mismatch => exact .neither _ _
      | ok found =>
        simp only
        cases cases.ofJson tag found.1 (.object found.2) with
        | error mismatch => exact .neither _ _
        | ok value =>
          simp only [ended]
          exact .both rfl

end Shape

mutual

/-- All shapes read texts like the values in them. -/
theorem Shape.streams : {α : Type} → (shape : Shape α) → shape.Streams
  | _, .text => Shape.streams_text
  | _, .flag => Shape.streams_flag
  | _, .count => Shape.streams_count
  | _, .choice options => Shape.streams_choice options
  | _, .optional shape => Shape.streams_optional shape.streams
  | _, .list shape => Shape.streams_list shape.streams
  | _, .table shape => Shape.streams_table shape.streams
  | _, .record name fields => Shape.streams_record name fields.streams
  | _, .kinds name tag cases => Shape.streams_kinds name tag cases
  | _, .extended name fields tag cases => Shape.streams_extended name tag cases fields.streams
  | _, .convert build shape => Shape.streams_convert build shape.streams

theorem Fields.streams : {σ β : Type} → (fields : Fields σ β) → fields.Streams
  | _, _, .nil => trivial
  | _, _, .cons _ shape _ more => ⟨shape.streams, more.streams⟩

end

end ComponentDocs.Snapshot
