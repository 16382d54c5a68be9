import ComponentDocs.Proofs.Json.SkippedValues
import ComponentDocs.Proofs.Outcomes
import ComponentDocs.Proofs.Snapshot.Keeping
import ComponentDocs.Snapshot.OfText

/-! Reading a text under a shape directly, and reading the value that is in it. As long as the
text holds a value at all, both succeed together, with one result, and end at one place. The
value has all members of its objects, as the text has them. -/
namespace ComponentDocs.Snapshot

open Json (Cursor ItemsRead MembersRead Members)

variable {α β σ : Type}

-- The equations of the readers are made here, once for all proofs that unfold them.
attribute [local simp] Shape.ofText Fields.fillFromText Fields.ofTextItems

/-- A reader ends behind the value that it reads. -/
def EndsAt (behind : Cursor) (result : α × Cursor) (value : α) : Prop := result = (value, behind)

section Folds

variable {ε ε' : Type} {raise : Json.Fault → ε} {levels steps : Nat} {first : Bool} {cursor last : Cursor}

/-- Reading item by item from the text, and from the items that are there. -/
theorem foldItems_alike {item : α → Cursor → Except ε (α × Cursor)} {step : α → Json → Except ε' α}
    (each : ∀ soFar cursor json behind, Json.readValue id levels cursor = .ok (json, behind) →
      Alike (EndsAt behind) (item soFar cursor) (step soFar json))
    {items : List Json} (inside : ItemsRead id levels steps first cursor items last) (soFar : α) :
    Alike (EndsAt last) (Json.foldItems raise item steps first soFar cursor) (items.foldlM step soFar) := by
  induction inside generalizing soFar with
  | ended found =>
    rw [Json.foldItems, found]
    exact .both rfl
  | @item steps first cursor next _ _ _ _ found read _ ih =>
    have stepped : Json.foldItems raise item (steps + 1) first soFar cursor =
        item soFar next >>= fun read => Json.foldItems raise item steps false read.1 read.2 := by
      simp only [Json.foldItems, found]
      rcases item soFar next with _ | ⟨_, _⟩ <;> rfl
    rw [stepped, List.foldlM_cons]
    refine (each soFar _ _ _ read).bind ?_
    rintro _ longer rfl
    exact ih longer

/-- Reading member by member from the text, and from the members that are there. -/
theorem foldMembers_alike {member : String → α → Cursor → Except ε (α × Cursor)}
    {step : α → String × Json → Except ε' α}
    (each : ∀ key soFar cursor start json behind, Json.readColon cursor = .ok start →
      Json.readValue id levels start = .ok (json, behind) →
      Alike (EndsAt behind) (member key soFar cursor) (step soFar (key, json)))
    {members : Members} (inside : MembersRead id levels steps first cursor members last) (soFar : α) :
    Alike (EndsAt last) (Json.foldMembers raise member steps first soFar cursor) (members.foldlM step soFar) := by
  induction inside generalizing soFar with
  | ended found =>
    rw [Json.foldMembers, found]
    exact .both rfl
  | @member steps first cursor next _ _ _ key _ _ found colon read _ ih =>
    have stepped : Json.foldMembers raise member (steps + 1) first soFar cursor =
        member key soFar next >>= fun read => Json.foldMembers raise member steps false read.1 read.2 := by
      simp only [Json.foldMembers, found]
      rcases member key soFar next with _ | ⟨_, _⟩ <;> rfl
    rw [stepped, List.foldlM_cons]
    refine (each key soFar _ _ _ _ colon read).bind ?_
    rintro _ longer rfl
    exact ih longer

theorem listOf_alike {item : α → Cursor → Except ε (α × Cursor)} {step : α → Json → Except ε' α} {behind : Cursor}
    (each : ∀ soFar cursor json behind, Json.readValue id levels cursor = .ok (json, behind) →
      Alike (EndsAt behind) (item soFar cursor) (step soFar json))
    {items : List Json} (inside : ItemsRead id levels (cursor.rest.length + 1) true cursor items last)
    (ended : Json.endList last = .ok behind) (start : α) :
    Alike (EndsAt behind) (Json.listOf raise item start cursor) (items.foldlM step start) := by
  have folded : Alike (EndsAt last) (Json.foldItems raise item (cursor.rest.length + 1) true start cursor)
      (items.foldlM step start) := foldItems_alike each inside start
  rw [Json.listOf]
  generalize Json.foldItems raise item (cursor.rest.length + 1) true start cursor = direct at folded ⊢
  generalize items.foldlM step start = indirect at folded ⊢
  cases folded with
  | both same =>
    rw [same]
    simp only [ended]
    exact .both rfl
  | neither error error' => exact .neither error error'

/-- Results that are put in front of those before them come out in order when they are reversed. -/
theorem foldlM_push {γ δ : Type} (compute : γ → Except ε δ) (items : List γ) :
    (items.foldlM (fun results item => (compute item).map (· :: results)) []).map List.reverse =
      items.mapM compute := by
  suffices general : ∀ soFar : List δ,
      (items.foldlM (fun results item => (compute item).map (· :: results)) soFar).map List.reverse =
        (items.mapM compute).map fun results => soFar.reverse ++ results by
    rw [general]
    cases items.mapM compute <;> rfl
  induction items with
  | nil =>
    intro soFar
    simp [pure, Except.pure, Except.map]
  | cons item items ih =>
    intro soFar
    rw [List.foldlM_cons, List.mapM_cons]
    cases compute item with
    | error error => rfl
    | ok result =>
      refine (ih (result :: soFar)).trans ?_
      cases items.mapM compute with
      | error error => rfl
      | ok results => simp [bind, Except.bind, pure, Except.pure, Except.map]

end Folds

/-- Reading a text that holds a value directly, and reading its value, comes to the same. -/
def Shape.Streams (shape : Shape α) : Prop :=
  ∀ levels cursor json behind, Json.readValue id levels cursor = .ok (json, behind) →
    Alike (EndsAt behind) (shape.ofText levels cursor) (shape.ofJson .parsed json)

def Fields.Streams : {σ β : Type} → Fields σ β → Prop
  | _, _, .nil => True
  | _, _, .cons _ shape _ more => shape.Streams ∧ more.Streams

theorem enter_bind {levels : Nat} {cursor : Cursor} (next : Nat × Cursor → Except ReadError α) :
    (enter (levels + 1) cursor >>= next) = next (levels, cursor.next) := rfl

/-- What is built of the results is built of equal results. -/
theorem EndsAt.build {ε ε' : Type} {direct : Except ε (α × Cursor)} {indirect : Except ε' α} {behind : Cursor}
    (alike : Alike (EndsAt behind) direct indirect) (build : α → β) :
    Alike (EndsAt behind) (do let (value, cursor) ← direct; return (build value, cursor)) (indirect.map build) := by
  cases alike with
  | both same =>
    rw [same]
    exact .both rfl
  | neither error error' => exact .neither error error'

/-- What is made of the members of an object, once the object is closed. -/
theorem EndsAt.close {ε' : Type} {direct : Except ReadError (α × Cursor)} {indirect : Except ε' α}
    {last behind : Cursor} (alike : Alike (EndsAt last) direct indirect)
    (ended : Json.endObject last = .ok behind) {next : α → Except ReadError β} {next' : α → Except ε' β}
    (each : ∀ value, Alike Eq (next value) (next' value)) :
    Alike (EndsAt behind)
      (do
        let (value, cursor) ← direct
        let result ← next value
        return (result, ← lift (Json.endObject cursor)))
      (indirect >>= next') := by
  refine alike.bind ?_
  rintro _ value rfl
  change Alike _ (next value >>= fun result => lift (Json.endObject last) >>= fun cursor => pure (result, cursor))
    (next' value)
  have made := each value
  generalize next value = direct, next' value = indirect at made ⊢
  cases made with
  | both same =>
    rw [ended, same]
    exact .both rfl
  | neither error error' => exact .neither error error'

namespace Shape

open Json (Scalar Reading)

theorem streams_text : text.Streams := by
  intro levels cursor json behind read
  rw [ofText, textAt]
  cases Json.reading_of_ok read with
  | scalar begun =>
    cases Json.scalar_of_ok begun with
    | string known read =>
      simp only [known, read]
      exact .both rfl
    | null known | yes known | no known | negative known =>
      simp only [known]
      exact .neither _ _
    | number known digit =>
      split
      · next tail quote => exact absurd quote (Json.ne_of_number known digit rfl tail)
      · exact .neither _ _
  | list begun | object begun =>
    simp only [begun]
    exact .neither _ _

theorem streams_flag : flag.Streams := by
  intro levels cursor json behind read
  rw [ofText]
  cases Json.reading_of_ok read with
  | scalar begun =>
    cases Json.scalar_of_ok begun with
    | yes known read | no known read =>
      simp only [known, read]
      exact .both rfl
    | null known | string known | negative known =>
      simp only [known]
      exact .neither _ _
    | number known digit =>
      split
      · next tail begun => exact absurd begun (Json.ne_of_number known digit rfl tail)
      · next tail begun => exact absurd begun (Json.ne_of_number known digit rfl tail)
      · exact .neither _ _
  | list begun | object begun =>
    simp only [begun]
    exact .neither _ _

theorem streams_count : count.Streams := by
  intro levels cursor json behind read
  rw [ofText]
  cases Json.reading_of_ok read with
  | scalar begun =>
    simp only [begun]
    cases json with
    | number value =>
      simp only [ofJson]
      cases countOfNumber value with
      | error mismatch => exact .neither _ _
      | ok counted => exact .both rfl
    | _ => exact .neither _ _
  | list begun =>
    simp only [Json.scalar?_of_open (.inl rfl) begun]
    exact .neither _ _
  | object begun =>
    simp only [Json.scalar?_of_open (.inr rfl) begun]
    exact .neither _ _

theorem streams_convert (build : α → β) {shape : Shape α} (streams : shape.Streams) :
    (convert build shape).Streams := by
  intro levels cursor json behind read
  rw [ofText, ofJson]
  exact EndsAt.build (streams levels cursor json behind read) build

theorem streams_optional {shape : Shape α} (streams : shape.Streams) : (optional shape).Streams := by
  intro levels cursor json behind read
  rw [ofText]
  rcases Json.null_or_filled read with ⟨rfl, ⟨rest, known⟩, literal⟩ | ⟨filled, present⟩
  · simp only [known, literal]
    exact .both rfl
  · rw [ofJson_optional filled]
    split
    · next tail begun => exact absurd begun (present tail)
    · have inner := streams levels cursor.skipBlank json behind ((Json.readValue_skipBlank _ _ _).trans read)
      exact EndsAt.build inner some

theorem streams_list {shape : Shape α} (streams : shape.Streams) : (list shape).Streams := by
  intro levels cursor json behind read
  rw [ofText]
  cases Json.reading_of_ok read with
  | scalar begun =>
    split
    · next tail bracket => exact absurd bracket (Json.ne_of_scalar begun (.inl rfl) tail)
    · cases Json.scalar_of_ok begun <;> exact .neither _ _
  | object begun =>
    simp only [begun]
    exact .neither _ _
  | @list levels _ last _ _ items begun inside ended =>
    have listed : Alike (EndsAt behind)
        (Json.listOf ReadError.fault
          (fun items cursor => do
            let (item, cursor) ← shape.ofText levels cursor
            return (item :: items, cursor))
          [] cursor.skipBlank.next)
        (items.foldlM (fun results item => (shape.ofJson .parsed item).map (· :: results)) []) :=
      listOf_alike (fun results start json after read =>
        EndsAt.build (streams levels start json after read) (· :: results)) inside ended []
    have built := EndsAt.build listed List.reverse
    rw [foldlM_push] at built
    simp only [begun]
    exact built

theorem streams_table {shape : Shape α} (streams : shape.Streams) : (table shape).Streams := by
  intro levels cursor json behind read
  rw [ofText]
  cases Json.reading_of_ok read with
  | scalar begun =>
    split
    · next tail brace => exact absurd brace (Json.ne_of_scalar begun (.inr rfl) tail)
    · cases Json.scalar_of_ok begun <;> exact .neither _ _
  | list begun =>
    simp only [begun]
    exact .neither _ _
  | @object levels _ last _ _ members begun inside ended =>
    have listed : Alike (EndsAt last)
        (Json.membersOf ReadError.fault
          (fun key entries cursor => do
            let cursor ← lift (Json.readColon cursor)
            let (value, cursor) ← shape.ofText levels cursor
            return ((key, value) :: entries, cursor))
          [] cursor.skipBlank.next)
        (members.foldlM (fun entries member =>
          ((shape.ofJson .parsed member.2).map fun value => (member.1, value)).map (· :: entries)) []) := by
      refine foldMembers_alike (fun key entries next start json after colon read => ?_) inside []
      have built := EndsAt.build (streams levels start json after read) fun value => (key, value) :: entries
      rw [colon, map_map]
      exact built
    have closed : Alike (EndsAt behind) _ (Except.map List.reverse _) :=
      EndsAt.close listed ended fun entries => .both (Eq.refl entries.reverse)
    rw [foldlM_push fun member : String × Json => (shape.ofJson .parsed member.2).map fun value => (member.1, value)]
      at closed
    simp only [begun]
    exact closed

theorem streams_kinds (name tag : String) (cases : Cases α) : (kinds name tag cases).Streams := by
  intro levels cursor json behind read
  rw [ofText, read]
  simp only [lift, bind, Except.bind]
  generalize (kinds name tag cases).ofJson .parsed json = indirect
  cases indirect with
  | error mismatch => exact .neither _ _
  | ok value => exact .both rfl

/-- A word is not written as an object with anything but null beside it. -/
theorem choiceOfJson_filled (options : List (String × α)) (key : String) {json : Json} (filled : json ≠ .null)
    (members : Members) :
    ∃ mismatch, choiceOfJson .parsed options (.object ((key, json) :: members)) = .error mismatch := by
  cases members with
  | cons member members => exact ⟨_, rfl⟩
  | nil =>
    have refused : ∃ mismatch, checkUnit .parsed json = .error mismatch := by
      rcases json with _ | _ | _ | _ | _ | _ | members
      · exact absurd rfl filled
      all_goals exact ⟨_, rfl⟩
    obtain ⟨mismatch, refused⟩ := refused
    simp only [choiceOfJson]
    cases optionNamed options key with
    | error mismatch => exact ⟨mismatch, rfl⟩
    | ok value => exact ⟨mismatch, by rw [refused]⟩

theorem choice_of_scalar (options : List (String × α)) {levels : Nat} {cursor behind : Cursor} {json : Json}
    (begun : Scalar cursor.skipBlank json behind) :
    Alike (EndsAt behind) (choiceOfText options levels cursor) (choiceOfJson .parsed options json) := by
  rw [choiceOfText]
  cases begun with
  | @string _ text _ known read =>
    simp only [known, read, lift, bind, Except.bind, choiceOfJson]
    cases optionNamed options text with
    | error mismatch => exact .neither _ _
    | ok value => exact .both rfl
  | null known | yes known | no known | negative known =>
    simp only [known]
    exact .neither _ _
  | number known digit =>
    split
    · exact .neither _ _
    · next tail quote => exact absurd quote (Json.ne_of_number known digit rfl tail)
    · next tail brace => exact absurd brace (Json.ne_of_number known digit rfl tail)
    · exact .neither _ _

/-- An object is a word if its one key is, with null beside it. -/
theorem choice_of_object (options : List (String × α)) {levels steps : Nat} {cursor last behind : Cursor}
    {rest : List Char} {members : Members} (begun : cursor.skipBlank.rest = '{' :: rest)
    (inside : Json.MembersRead id levels steps true cursor.skipBlank.next members last)
    (ended : Json.endObject last = .ok behind) :
    Alike (EndsAt behind) (choiceOfText options (levels + 1) cursor)
      (choiceOfJson .parsed options (.object members)) := by
  rw [choiceOfText]
  simp only [begun, enter_bind]
  cases inside with
  | ended found =>
    obtain ⟨-, rest, brace⟩ := Json.nextKey_eq_none found
    simp only [keyAt, brace]
    exact .neither _ _
  | @member _ _ _ next start after _ key json members found colon inner others =>
    obtain ⟨place, ⟨rest, quote⟩, named, same⟩ := Json.nextKey_eq_some found
    rw [if_pos rfl] at same
    subst same
    simp only [keyAt, quote, named, lift, bind, Except.bind, colon]
    rcases Json.null_or_filled inner with ⟨rfl, ⟨rest, known⟩, literal⟩ | ⟨filled, present⟩
    · simp only [known, literal]
      rcases Json.closed_or_more others ended with ⟨rfl, ⟨tail, brace⟩, rfl⟩ | ⟨member, more, rfl, tail, comma⟩
      · cases option : optionNamed options key with
        | error mismatch =>
          simp only [choiceOfJson, option]
          exact .neither _ _
        | ok value =>
          simp only [Except.mapError, brace, choiceOfJson, option, checkUnit]
          exact .both rfl
      · cases optionNamed options key with
        | error mismatch => exact .neither _ _
        | ok value =>
          simp only [Except.mapError, comma]
          exact .neither _ _
    · obtain ⟨mismatch, refused⟩ := choiceOfJson_filled options key filled members
      rw [refused]
      cases optionNamed options key with
      | error mismatch => exact .neither _ _
      | ok value =>
        simp only [Except.mapError]
        exact .neither _ _

theorem streams_choice (options : List (String × α)) : (choice options).Streams := by
  intro levels cursor json behind read
  rw [ofText, ofJson]
  cases Json.reading_of_ok read with
  | scalar begun => exact choice_of_scalar options (Json.scalar_of_ok begun)
  | list begun =>
    rw [choiceOfText]
    simp only [begun]
    exact .neither _ _
  | object begun inside ended => exact choice_of_object options begun inside ended

end Shape

end ComponentDocs.Snapshot
