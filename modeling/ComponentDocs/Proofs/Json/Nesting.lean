import ComponentDocs.Json.Reader
import ComponentDocs.Proofs.Json.Cursor

/-! How a value is read that holds other values: the readers of single items and members, and
the ways in which reading a value can succeed. -/
namespace ComponentDocs.Json

section Between

variable {cursor behind : Cursor} {first : Bool}

theorem nextItem_eq_false (read : nextItem first cursor = .ok (false, behind)) :
    behind = cursor.skipBlank ∧ ∃ rest, cursor.skipBlank.rest = ']' :: rest := by
  simp only [nextItem] at read
  split at read
  · cases read
  · next rest known =>
    cases read
    exact ⟨rfl, rest, known⟩
  · split at read
    · cases read
    · split at read
      · split at read <;> cases read
      · cases read

/-- A list goes on where an item begins: at once, or behind a comma. -/
theorem nextItem_eq_true (read : nextItem first cursor = .ok (true, behind)) :
    ∃ start, behind = start.skipBlank ∧ behind.rest ≠ [] ∧ (∀ rest, behind.rest ≠ ']' :: rest) ∧
      if first then start = cursor
      else (∃ rest, cursor.skipBlank.rest = ',' :: rest) ∧ start = cursor.skipBlank.next := by
  simp only [nextItem] at read
  split at read
  · cases read
  · cases read
  · next c rest noEnd known =>
    split at read
    · next atOnce =>
      cases read
      refine ⟨cursor, rfl, ?_, ?_, by rw [if_pos atOnce]⟩
      · simp [known]
      · intro more same
        rw [known] at same
        exact noEnd (List.cons.inj same).1
    · next later =>
      split at read
      · next comma =>
        subst comma
        split at read
        · cases read
        · cases read
        · next nonempty more =>
          cases read
          refine ⟨cursor.skipBlank.next, rfl, nonempty, more, ?_⟩
          rw [if_neg later]
          exact ⟨⟨rest, known⟩, rfl⟩
      · cases read

theorem endList_eq_ok (read : endList cursor = .ok behind) :
    (∃ rest, cursor.skipBlank.rest = ']' :: rest) ∧ behind = cursor.skipBlank.next := by
  simp only [endList] at read
  split at read
  · cases read
  · next rest known =>
    cases read
    exact ⟨⟨rest, known⟩, rfl⟩
  · split at read <;> cases read
  · cases read

theorem endObject_eq_ok (read : endObject cursor = .ok behind) :
    (∃ rest, cursor.skipBlank.rest = '}' :: rest) ∧ behind = cursor.skipBlank.next := by
  rw [endObject] at read
  split at read
  · cases read
  · next rest known =>
    cases read
    exact ⟨⟨rest, known⟩, rfl⟩
  · cases read
  · cases read

theorem readColon_eq_ok (read : readColon cursor = .ok behind) :
    (∃ rest, cursor.skipBlank.rest = ':' :: rest) ∧ behind = cursor.skipBlank.next := by
  rw [readColon] at read
  split at read
  · cases read
  · next rest known =>
    cases read
    exact ⟨⟨rest, known⟩, rfl⟩
  · cases read

theorem readKey_eq_ok {key : Option String} (read : readKey cursor = .ok (key, behind)) :
    ∃ name, key = some name ∧ readString cursor.next = .ok (name, behind) := by
  rw [readKey] at read
  split at read
  · next name last string =>
    cases read
    exact ⟨name, rfl, string⟩
  · cases read

theorem nextKey_eq_none (read : nextKey first cursor = .ok (none, behind)) :
    behind = cursor.skipBlank ∧ ∃ rest, cursor.skipBlank.rest = '}' :: rest := by
  have noKey {start : Cursor} : readKey start ≠ .ok (none, behind) := by
    intro read
    obtain ⟨name, same, -⟩ := readKey_eq_ok read
    cases same
  simp only [nextKey] at read
  split at read
  · cases read
  · next rest known =>
    cases read
    exact ⟨rfl, rest, known⟩
  · split at read
    · split at read
      · exact absurd read noKey
      · cases read
    · split at read
      · split at read
        · cases read
        · exact absurd read noKey
        · cases read
        · cases read
      · cases read

/-- An object goes on where a key begins: at once, or behind a comma. -/
theorem nextKey_eq_some {key : String} (read : nextKey first cursor = .ok (some key, behind)) :
    ∃ start, (∃ rest, start.skipBlank.rest = '\"' :: rest) ∧ readString start.skipBlank.next = .ok (key, behind) ∧
      if first then start = cursor
      else (∃ rest, cursor.skipBlank.rest = ',' :: rest) ∧ start = cursor.skipBlank.next := by
  have string {start : Cursor} (read : readKey start = .ok (some key, behind)) :
      readString start.next = .ok (key, behind) := by
    obtain ⟨name, same, string⟩ := readKey_eq_ok read
    cases same
    exact string
  simp only [nextKey] at read
  split at read
  · cases read
  · cases read
  · next c rest _ known =>
    split at read
    · next atOnce =>
      split at read
      · next quote =>
        subst quote
        exact ⟨cursor, ⟨rest, known⟩, string read, by rw [if_pos atOnce]⟩
      · cases read
    · next later =>
      split at read
      · next comma =>
        subst comma
        split at read
        · cases read
        · next more quote =>
          refine ⟨cursor.skipBlank.next, ⟨more, quote⟩, string read, ?_⟩
          rw [if_neg later]
          exact ⟨⟨rest, known⟩, rfl⟩
        · cases read
        · cases read
      · cases read

end Between

/-- Reads an item onto those before it. -/
def addItem (keep : Members → Members) (levels : Nat) (items : List Json) (cursor : Cursor) :
    Except Fault (List Json × Cursor) :=
  match readValue keep levels cursor with
  | .ok (item, cursor) => .ok (item :: items, cursor)
  | .error fault => .error fault

/-- Reads the value of a member onto the members before it. -/
def addMember (keep : Members → Members) (levels : Nat) (key : String) (members : Members) (cursor : Cursor) :
    Except Fault (Members × Cursor) :=
  match readColon cursor with
  | .error fault => .error fault
  | .ok cursor =>
    match readValue keep levels cursor with
    | .ok (item, cursor) => .ok ((key, item) :: members, cursor)
    | .error fault => .error fault

variable {keep : Members → Members} {levels : Nat} {cursor behind : Cursor} {json : Json} {rest : List Char}

theorem readValue_of_scalar {outcome : Except Fault (Json × Cursor)}
    (begun : scalar? cursor.skipBlank = some outcome) : readValue keep levels cursor = outcome := by
  cases levels <;> simp only [readValue, begun]

theorem readValue_skipBlank (keep : Members → Members) (levels : Nat) (cursor : Cursor) :
    readValue keep levels cursor.skipBlank = readValue keep levels cursor := by
  cases levels <;> simp only [readValue, Cursor.skipBlank_skipBlank]

theorem scalar?_of_open {c : Char} (opens : c = '[' ∨ c = '{') (begun : cursor.rest = c :: rest) :
    scalar? cursor = none := by
  rw [scalar?, begun]
  rcases opens with rfl | rfl <;> rfl

theorem readValue_of_bracket (begun : cursor.skipBlank.rest = '[' :: rest) :
    readValue keep (levels + 1) cursor =
      match listOf id (addItem keep levels) [] cursor.skipBlank.next with
      | .ok (items, cursor) => .ok (.array items.reverse, cursor)
      | .error fault => .error fault := by
  rw [readValue]
  simp only [scalar?_of_open (.inl rfl) begun, begun]
  rfl

theorem readValue_of_brace (begun : cursor.skipBlank.rest = '{' :: rest) :
    readValue keep (levels + 1) cursor =
      match membersOf id (addMember keep levels) [] cursor.skipBlank.next with
      | .error fault => .error fault
      | .ok (members, cursor) =>
        match endObject cursor with
        | .ok cursor => .ok (.object (keep members.reverse), cursor)
        | .error fault => .error fault := by
  rw [readValue]
  simp only [scalar?_of_open (.inr rfl) begun, begun]
  rfl

/-- The items of a list from a place between two of them on, up to the end of the list. -/
inductive ItemsRead (keep : Members → Members) (levels : Nat) : Nat → Bool → Cursor → List Json → Cursor → Prop
  | ended {steps : Nat} {first : Bool} {cursor last : Cursor}
      (found : nextItem first cursor = .ok (false, last)) :
      ItemsRead keep levels (steps + 1) first cursor [] last
  | item {steps : Nat} {first : Bool} {cursor next after last : Cursor} {json : Json} {items : List Json}
      (found : nextItem first cursor = .ok (true, next)) (read : readValue keep levels next = .ok (json, after))
      (others : ItemsRead keep levels steps false after items last) :
      ItemsRead keep levels (steps + 1) first cursor (json :: items) last

/-- The members of an object from a place between two of them on, up to the end of the object. -/
inductive MembersRead (keep : Members → Members) (levels : Nat) : Nat → Bool → Cursor → Members → Cursor → Prop
  | ended {steps : Nat} {first : Bool} {cursor last : Cursor}
      (found : nextKey first cursor = .ok (none, last)) :
      MembersRead keep levels (steps + 1) first cursor [] last
  | member {steps : Nat} {first : Bool} {cursor next start after last : Cursor} {key : String} {json : Json}
      {members : Members} (found : nextKey first cursor = .ok (some key, next))
      (colon : readColon next = .ok start) (read : readValue keep levels start = .ok (json, after))
      (others : MembersRead keep levels steps false after members last) :
      MembersRead keep levels (steps + 1) first cursor ((key, json) :: members) last

theorem itemsRead_of_ok {steps : Nat} {first : Bool} {soFar result : List Json} {cursor last : Cursor}
    (read : foldItems id (addItem keep levels) steps first soFar cursor = .ok (result, last)) :
    ∃ items, result = items.reverse ++ soFar ∧ ItemsRead keep levels steps first cursor items last := by
  induction steps generalizing first soFar cursor with
  | zero => cases read
  | succ steps ih =>
    rw [foldItems] at read
    split at read
    · cases read
    · next found =>
      cases read
      exact ⟨[], rfl, .ended found⟩
    · next next found =>
      split at read
      · cases read
      · next longer after added =>
        rw [addItem] at added
        split at added
        · next json last value =>
          cases added
          obtain ⟨items, rfl, others⟩ := ih read
          exact ⟨json :: items, by simp, .item found value others⟩
        · cases added

theorem membersRead_of_ok {steps : Nat} {first : Bool} {soFar result : Members} {cursor last : Cursor}
    (read : foldMembers id (addMember keep levels) steps first soFar cursor = .ok (result, last)) :
    ∃ members, result = members.reverse ++ soFar ∧ MembersRead keep levels steps first cursor members last := by
  induction steps generalizing first soFar cursor with
  | zero => cases read
  | succ steps ih =>
    rw [foldMembers] at read
    split at read
    · cases read
    · next found =>
      cases read
      exact ⟨[], rfl, .ended found⟩
    · next key next found =>
      split at read
      · cases read
      · next longer after added =>
        rw [addMember] at added
        split at added
        · cases added
        · next start colon =>
          split at added
          · next json last value =>
            cases added
            obtain ⟨members, rfl, others⟩ := ih read
            exact ⟨(key, json) :: members, by simp, .member found colon value others⟩
          · cases added

/-- A value without inner values, by the character that it begins with. -/
inductive Scalar (cursor : Cursor) : Json → Cursor → Prop
  | null {rest : List Char} {behind : Cursor} (known : cursor.rest = 'n' :: rest)
      (read : readLiteral ['u', 'l', 'l'] cursor.next = .ok behind) : Scalar cursor .null behind
  | yes {rest : List Char} {behind : Cursor} (known : cursor.rest = 't' :: rest)
      (read : readLiteral ['r', 'u', 'e'] cursor.next = .ok behind) : Scalar cursor (.bool true) behind
  | no {rest : List Char} {behind : Cursor} (known : cursor.rest = 'f' :: rest)
      (read : readLiteral ['a', 'l', 's', 'e'] cursor.next = .ok behind) : Scalar cursor (.bool false) behind
  | string {rest : List Char} {text : String} {behind : Cursor} (known : cursor.rest = '\"' :: rest)
      (read : readString cursor.next = .ok (text, behind)) : Scalar cursor (.string text) behind
  | negative {rest : List Char} {number : Number} {behind : Cursor} (known : cursor.rest = '-' :: rest)
      (read : readNumber true cursor.next = .ok (number, behind)) : Scalar cursor (.number number) behind
  | number {c : Char} {rest : List Char} {number : Number} {behind : Cursor} (known : cursor.rest = c :: rest)
      (digit : isDigit c) (read : readNumber false cursor = .ok (number, behind)) :
      Scalar cursor (.number number) behind

theorem ne_of_number {c other : Char} (known : cursor.rest = c :: rest) (digit : isDigit c)
    (noDigit : isDigit other = false) (tail : List Char) : cursor.rest ≠ other :: tail := by
  rw [known]
  intro same
  obtain ⟨rfl, -⟩ := List.cons.inj same
  rw [digit] at noDigit
  cases noDigit

theorem ne_of_scalar {c : Char} {outcome : Except Fault (Json × Cursor)} (begun : scalar? cursor = some outcome)
    (opens : c = '[' ∨ c = '{') (tail : List Char) : cursor.rest ≠ c :: tail := by
  intro known
  rw [scalar?_of_open opens known] at begun
  cases begun

theorem literalValue_eq_ok {rest : List Char} {value : Json}
    (read : literalValue rest value cursor = .ok (json, behind)) :
    json = value ∧ readLiteral rest cursor.next = .ok behind := by
  rw [literalValue] at read
  split at read
  · next last passed =>
    cases read
    exact ⟨rfl, passed⟩
  · cases read

theorem numberValue_eq_ok {negative : Bool} (read : numberValue negative cursor = .ok (json, behind)) :
    ∃ number, json = .number number ∧ readNumber negative cursor = .ok (number, behind) := by
  rw [numberValue] at read
  split at read
  · next number last passed =>
    cases read
    exact ⟨number, rfl, passed⟩
  · cases read

theorem scalar_of_ok (begun : scalar? cursor = some (.ok (json, behind))) : Scalar cursor json behind := by
  rw [scalar?] at begun
  split at begun
  · next rest known =>
    obtain ⟨rfl, read⟩ := literalValue_eq_ok (Option.some.inj begun)
    exact .null known read
  · next rest known =>
    obtain ⟨rfl, read⟩ := literalValue_eq_ok (Option.some.inj begun)
    exact .yes known read
  · next rest known =>
    obtain ⟨rfl, read⟩ := literalValue_eq_ok (Option.some.inj begun)
    exact .no known read
  · next rest known =>
    obtain ⟨number, rfl, read⟩ := numberValue_eq_ok (Option.some.inj begun)
    exact .negative known read
  · next rest known =>
    have read := Option.some.inj begun
    split at read
    · next text last string =>
      cases read
      exact .string known string
    · cases read
  · next c rest _ _ _ _ _ known =>
    split at begun
    · next digit =>
      obtain ⟨number, rfl, read⟩ := numberValue_eq_ok (Option.some.inj begun)
      exact .number known digit read
    · cases begun
  · cases begun

/-- The ways in which a value is read. -/
inductive Reading (keep : Members → Members) : Nat → Cursor → Json → Cursor → Prop
  | scalar {levels : Nat} {cursor behind : Cursor} {json : Json}
      (begun : scalar? cursor.skipBlank = some (.ok (json, behind))) : Reading keep levels cursor json behind
  | list {levels : Nat} {cursor last behind : Cursor} {rest : List Char} {items : List Json}
      (begun : cursor.skipBlank.rest = '[' :: rest)
      (inside : ItemsRead keep levels (cursor.skipBlank.next.rest.length + 1) true cursor.skipBlank.next items last)
      (ended : endList last = .ok behind) : Reading keep (levels + 1) cursor (.array items) behind
  | object {levels : Nat} {cursor last behind : Cursor} {rest : List Char} {members : Members}
      (begun : cursor.skipBlank.rest = '{' :: rest)
      (inside : MembersRead keep levels (cursor.skipBlank.next.rest.length + 1) true cursor.skipBlank.next members
        last)
      (ended : endObject last = .ok behind) : Reading keep (levels + 1) cursor (.object (keep members)) behind

theorem reading_list_of_ok (begun : cursor.skipBlank.rest = '[' :: rest)
    (read : readValue keep levels cursor = .ok (json, behind)) : Reading keep levels cursor json behind := by
  cases levels with
  | zero => simp [readValue, scalar?_of_open (.inl rfl) begun, begun] at read
  | succ levels =>
    rw [readValue_of_bracket begun, listOf] at read
    split at read
    · next items last listed =>
      cases read
      split at listed
      · cases listed
      · next result place folded =>
        obtain ⟨items, rfl, inside⟩ := itemsRead_of_ok folded
        split at listed
        · cases listed
        · next ended =>
          cases listed
          rw [List.append_nil, List.reverse_reverse]
          exact .list begun inside ended
    · cases read

theorem reading_object_of_ok (begun : cursor.skipBlank.rest = '{' :: rest)
    (read : readValue keep levels cursor = .ok (json, behind)) : Reading keep levels cursor json behind := by
  cases levels with
  | zero => simp [readValue, scalar?_of_open (.inr rfl) begun, begun] at read
  | succ levels =>
    rw [readValue_of_brace begun, membersOf] at read
    split at read
    · cases read
    · next members last folded =>
      obtain ⟨members, rfl, inside⟩ := membersRead_of_ok folded
      split at read
      · next ended =>
        cases read
        rw [List.append_nil, List.reverse_reverse]
        exact .object begun inside ended
      · cases read

theorem reading_of_ok (read : readValue keep levels cursor = .ok (json, behind)) :
    Reading keep levels cursor json behind := by
  cases begun : scalar? cursor.skipBlank with
  | some outcome =>
    rw [readValue_of_scalar begun] at read
    exact .scalar (read ▸ begun)
  | none =>
    rcases known : cursor.skipBlank.rest with _ | ⟨c, rest⟩
    · cases levels <;> simp [readValue, begun, known] at read
    · by_cases bracket : c = '['
      · subst bracket
        exact reading_list_of_ok known read
      · by_cases brace : c = '{'
        · subst brace
          exact reading_object_of_ok known read
        · cases levels <;> simp [readValue, begun, known, bracket, brace] at read

theorem closed_or_more {steps : Nat} {after last : Cursor} {members : Members}
    (others : MembersRead keep levels steps false after members last) (ended : endObject last = .ok behind) :
    (members = [] ∧ (∃ tail, after.skipBlank.rest = '}' :: tail) ∧ behind = after.skipBlank.next) ∨
    ∃ member more, members = member :: more ∧ ∃ tail, after.skipBlank.rest = ',' :: tail := by
  cases others with
  | ended found =>
    obtain ⟨rfl, tail, brace⟩ := nextKey_eq_none found
    obtain ⟨-, rfl⟩ := endObject_eq_ok ended
    rw [Cursor.skipBlank_skipBlank]
    exact .inl ⟨rfl, ⟨tail, brace⟩, rfl⟩
  | member found =>
    obtain ⟨_, -, -, place⟩ := nextKey_eq_some found
    rw [if_neg Bool.false_ne_true] at place
    obtain ⟨comma, -⟩ := place
    exact .inr ⟨_, _, rfl, comma⟩

/-- A value is null where the text has it, and nowhere else. -/
theorem null_or_filled (read : readValue keep levels cursor = .ok (json, behind)) :
    (json = .null ∧ (∃ rest, cursor.skipBlank.rest = 'n' :: rest) ∧
      readLiteral ['u', 'l', 'l'] cursor.skipBlank.next = .ok behind) ∨
    (json ≠ .null ∧ ∀ tail, cursor.skipBlank.rest ≠ 'n' :: tail) := by
  cases reading_of_ok read with
  | scalar begun =>
    cases scalar_of_ok begun with
    | null known read => exact .inl ⟨rfl, ⟨_, known⟩, read⟩
    | yes known | no known | string known | negative known =>
      refine .inr ⟨nofun, fun tail => ?_⟩
      rw [known]
      nofun
    | number known digit => exact .inr ⟨nofun, ne_of_number known digit rfl⟩
  | list begun | object begun =>
    refine .inr ⟨nofun, fun tail => ?_⟩
    rw [begun]
    nofun

end ComponentDocs.Json
