import ComponentDocs.Proofs.Json.Nesting
import ComponentDocs.Proofs.Json.SkippedTokens

/-! A value that can be read can be passed over, and that leads to the same place. A reader has
so many levels and a step for each character of a list or an object; passing over has no levels
and shares its steps among all that is inside. -/
namespace ComponentDocs.Json

variable {keep : Members → Members} {cursor behind : Cursor} {json : Json}

theorem skipValueFrom_skipBlank (steps : Nat) (cursor : Cursor) :
    skipValueFrom (steps + 1) cursor.skipBlank = skipValueFrom (steps + 1) cursor := by
  simp only [skipValueFrom, Cursor.skipBlank_skipBlank]

theorem skip_scalar (scalar : Scalar cursor.skipBlank json behind) :
    behind.rest.length ≤ cursor.rest.length ∧ ∀ steps, skipValueFrom (steps + 1) cursor = .ok behind := by
  have blank := Cursor.length_skipBlank_le cursor
  cases scalar with
  | null known read | yes known read | no known read =>
    have shorter := Cursor.length_next known
    have fewer := length_readLiteral_le read
    refine ⟨by omega, fun steps => ?_⟩
    rw [skipValueFrom, known]
    exact read
  | string known read =>
    have shorter := Cursor.length_next known
    obtain ⟨fewer, skipped⟩ := skip_string read
    refine ⟨by omega, fun steps => ?_⟩
    rw [skipValueFrom, known]
    exact skipped _ (Nat.lt_succ_self _)
  | negative known read =>
    have shorter := Cursor.length_next known
    have skipped := skip_number read
    have fewer := length_skipNumber_le skipped
    refine ⟨by omega, fun steps => ?_⟩
    rw [skipValueFrom, known]
    exact skipped
  | @number c _ _ _ known digit read =>
    have skipped := skip_number read
    have fewer := length_skipNumber_le skipped
    obtain ⟨noNull, noTrue, noFalse, noSign, noQuote, noBracket, noBrace⟩ :
        c ≠ 'n' ∧ c ≠ 't' ∧ c ≠ 'f' ∧ c ≠ '-' ∧ c ≠ '\"' ∧ c ≠ '[' ∧ c ≠ '{' := by
      refine ⟨?_, ?_, ?_, ?_, ?_, ?_, ?_⟩ <;> (rintro rfl; cases digit)
    refine ⟨by omega, fun steps => ?_⟩
    rw [skipValueFrom]
    simp only [known, digit, if_true, skipped]

/-- What passing over the items of a list does behind one of them. -/
def behindItemFrom (steps : Nat) (cursor : Cursor) : Except Fault Cursor :=
  match cursor.skipBlank.rest with
  | [] => .error (cursor.skipBlank.fault .endInList)
  | ',' :: _ => skipItemsFrom steps cursor.skipBlank.next
  | ']' :: _ => .ok cursor.skipBlank.next
  | _ => .error (cursor.skipBlank.faultNext .expectedListCommaOrEnd)

theorem skipItemsFrom_succ (steps : Nat) (cursor : Cursor) :
    skipItemsFrom (steps + 1) cursor = skipValueFrom steps cursor >>= behindItemFrom steps := by
  rw [skipItemsFrom]
  rfl

/-- What passing over the members of an object does behind one of them. -/
def behindMemberFrom (steps : Nat) (cursor : Cursor) : Except Fault Cursor :=
  match cursor.skipBlank.rest with
  | [] => .error (cursor.skipBlank.fault .endInObject)
  | ',' :: _ => skipMembersFrom steps cursor.skipBlank.next
  | '}' :: _ => .ok cursor.skipBlank.next
  | _ => .error (cursor.skipBlank.faultNext .expectedObjectCommaOrEnd)

theorem skipMembersFrom_succ (steps : Nat) (cursor : Cursor) :
    skipMembersFrom (steps + 1) cursor =
      skipKey cursor >>= fun behind => skipValueFrom steps behind >>= behindMemberFrom steps := by
  rw [skipMembersFrom]
  rfl

/-- Values with at most so many levels below them can be passed over. -/
def SkipsValues (keep : Members → Members) (levels : Nat) : Prop :=
  ∀ cursor json behind, readValue keep levels cursor = .ok (json, behind) →
    behind.rest.length ≤ cursor.rest.length ∧
      ∀ steps, 2 * cursor.rest.length + 2 ≤ steps → skipValueFrom steps cursor = .ok behind

variable {levels : Nat}

theorem skip_item (values : SkipsValues keep levels) {start after behind : Cursor}
    (read : readValue keep levels start.skipBlank = .ok (json, after))
    (rest : behind.rest.length ≤ after.rest.length ∧
      ∀ steps, 2 * after.rest.length + 1 ≤ steps → behindItemFrom steps after = .ok behind) :
    behind.rest.length ≤ start.rest.length ∧
      ∀ steps, 2 * start.rest.length + 3 ≤ steps → skipItemsFrom steps start = .ok behind := by
  have blank := Cursor.length_skipBlank_le start
  obtain ⟨fewer, skips⟩ := values _ _ _ read
  obtain ⟨fewer', skips'⟩ := rest
  refine ⟨by omega, fun steps enough => ?_⟩
  obtain ⟨steps, rfl⟩ : ∃ more, steps = more + 1 + 1 := ⟨steps - 2, by omega⟩
  have passed : skipValueFrom (steps + 1) start = .ok after := by
    rw [← skipValueFrom_skipBlank]
    exact skips _ (by omega)
  rw [skipItemsFrom_succ, passed]
  exact skips' _ (by omega)

theorem skip_behindItem (values : SkipsValues keep levels) {steps : Nat} {first : Bool} {cursor last behind : Cursor}
    {items : List Json} (inside : ItemsRead keep levels steps first cursor items last) (later : first = false)
    (ended : endList last = .ok behind) :
    behind.rest.length ≤ cursor.rest.length ∧
      ∀ steps, 2 * cursor.rest.length + 1 ≤ steps → behindItemFrom steps cursor = .ok behind := by
  induction inside with
  | @ended _ _ cursor _ found =>
    have blank := Cursor.length_skipBlank_le cursor
    obtain ⟨rfl, rest, bracket⟩ := nextItem_eq_false found
    obtain ⟨-, rfl⟩ := endList_eq_ok ended
    rw [Cursor.skipBlank_skipBlank]
    have shorter := Cursor.length_next bracket
    refine ⟨by omega, fun steps enough => ?_⟩
    rw [behindItemFrom, bracket]
    rfl
  | @item _ _ cursor _ _ _ _ _ found read _ ih =>
    subst later
    have blank := Cursor.length_skipBlank_le cursor
    obtain ⟨start, rfl, -, -, place⟩ := nextItem_eq_true found
    rw [if_neg Bool.false_ne_true] at place
    obtain ⟨⟨rest, comma⟩, rfl⟩ := place
    have shorter := Cursor.length_next comma
    obtain ⟨fewer, skips⟩ := skip_item values read (ih rfl ended)
    refine ⟨by omega, fun steps enough => ?_⟩
    rw [behindItemFrom, comma]
    exact skips steps (by omega)

theorem skip_key {start next behind : Cursor} {key : String} {rest : List Char}
    (begun : start.skipBlank.rest = '\"' :: rest) (read : readString start.skipBlank.next = .ok (key, next))
    (colon : readColon next = .ok behind) :
    skipKey start = .ok behind ∧ behind.rest.length + 1 ≤ start.rest.length := by
  have blank := Cursor.length_skipBlank_le start
  have shorter := Cursor.length_next begun
  obtain ⟨fewer, skips⟩ := skip_string read
  obtain ⟨⟨more, known⟩, rfl⟩ := readColon_eq_ok colon
  have blank' := Cursor.length_skipBlank_le next
  have shorter' := Cursor.length_next known
  refine ⟨?_, by omega⟩
  have passed : skipString start.skipBlank.next = .ok next := skips _ (Nat.lt_succ_self _)
  simp only [skipKey, begun, passed, bind, Except.bind, colon]

theorem skip_member (values : SkipsValues keep levels) {start next after behind : Cursor}
    (skipped : skipKey start = .ok next) (shorter : next.rest.length + 1 ≤ start.rest.length)
    (read : readValue keep levels next = .ok (json, after))
    (others : behind.rest.length ≤ after.rest.length ∧
      ∀ steps, 2 * after.rest.length + 1 ≤ steps → behindMemberFrom steps after = .ok behind) :
    behind.rest.length ≤ start.rest.length ∧
      ∀ steps, 2 * start.rest.length + 1 ≤ steps → skipMembersFrom steps start = .ok behind := by
  obtain ⟨fewer, skips⟩ := values _ _ _ read
  obtain ⟨fewer', skips'⟩ := others
  refine ⟨by omega, fun steps enough => ?_⟩
  obtain ⟨steps, rfl⟩ : ∃ more, steps = more + 1 := ⟨steps - 1, by omega⟩
  have passed : skipValueFrom steps next = .ok after := skips _ (by omega)
  rw [skipMembersFrom_succ, skipped]
  change skipValueFrom steps next >>= behindMemberFrom steps = .ok behind
  rw [passed]
  exact skips' _ (by omega)

theorem skip_behindMember (values : SkipsValues keep levels) {steps : Nat} {first : Bool}
    {cursor last behind : Cursor} {members : Members}
    (inside : MembersRead keep levels steps first cursor members last) (later : first = false)
    (ended : endObject last = .ok behind) :
    behind.rest.length ≤ cursor.rest.length ∧
      ∀ steps, 2 * cursor.rest.length + 1 ≤ steps → behindMemberFrom steps cursor = .ok behind := by
  induction inside with
  | @ended _ _ cursor _ found =>
    have blank := Cursor.length_skipBlank_le cursor
    obtain ⟨rfl, rest, brace⟩ := nextKey_eq_none found
    obtain ⟨-, rfl⟩ := endObject_eq_ok ended
    rw [Cursor.skipBlank_skipBlank]
    have shorter := Cursor.length_next brace
    refine ⟨by omega, fun steps enough => ?_⟩
    rw [behindMemberFrom, brace]
    rfl
  | @member _ _ cursor _ _ _ _ _ _ _ found colon read _ ih =>
    subst later
    have blank := Cursor.length_skipBlank_le cursor
    obtain ⟨start, ⟨more, quote⟩, named, place⟩ := nextKey_eq_some found
    rw [if_neg Bool.false_ne_true] at place
    obtain ⟨⟨rest, comma⟩, rfl⟩ := place
    have shorter := Cursor.length_next comma
    obtain ⟨skipped, behindKey⟩ := skip_key quote named colon
    obtain ⟨fewer, skips⟩ := skip_member values skipped behindKey read (ih rfl ended)
    refine ⟨by omega, fun steps enough => ?_⟩
    rw [behindMemberFrom, comma]
    exact skips steps (by omega)

theorem skip_list (values : SkipsValues keep levels) {steps : Nat} {cursor last behind : Cursor} {rest : List Char}
    {items : List Json} (begun : cursor.skipBlank.rest = '[' :: rest)
    (inside : ItemsRead keep levels steps true cursor.skipBlank.next items last)
    (ended : endList last = .ok behind) :
    behind.rest.length ≤ cursor.rest.length ∧
      ∀ steps, 2 * cursor.rest.length + 2 ≤ steps → skipValueFrom steps cursor = .ok behind := by
  have blank := Cursor.length_skipBlank_le cursor
  have shorter := Cursor.length_next begun
  have blank' := Cursor.length_skipBlank_le cursor.skipBlank.next
  cases inside with
  | ended found =>
    obtain ⟨rfl, more, bracket⟩ := nextItem_eq_false found
    obtain ⟨-, rfl⟩ := endList_eq_ok ended
    rw [Cursor.skipBlank_skipBlank]
    have shorter' := Cursor.length_next bracket
    refine ⟨by omega, fun steps enough => ?_⟩
    obtain ⟨steps, rfl⟩ : ∃ more, steps = more + 1 := ⟨steps - 1, by omega⟩
    rw [skipValueFrom, begun]
    simp only [bracket]
    rfl
  | item found read others =>
    obtain ⟨start, rfl, nonempty, noBracket, place⟩ := nextItem_eq_true found
    rw [if_pos rfl] at place
    subst place
    rw [← Cursor.skipBlank_skipBlank] at read
    obtain ⟨fewer, skips⟩ := skip_item values read (skip_behindItem values others rfl ended)
    refine ⟨by omega, fun steps enough => ?_⟩
    obtain ⟨steps, rfl⟩ : ∃ more, steps = more + 1 := ⟨steps - 1, by omega⟩
    rw [skipValueFrom, begun]
    simp only
    exact skips steps (by omega)

theorem skip_object (values : SkipsValues keep levels) {steps : Nat} {cursor last behind : Cursor}
    {rest : List Char} {members : Members} (begun : cursor.skipBlank.rest = '{' :: rest)
    (inside : MembersRead keep levels steps true cursor.skipBlank.next members last)
    (ended : endObject last = .ok behind) :
    behind.rest.length ≤ cursor.rest.length ∧
      ∀ steps, 2 * cursor.rest.length + 2 ≤ steps → skipValueFrom steps cursor = .ok behind := by
  have blank := Cursor.length_skipBlank_le cursor
  have shorter := Cursor.length_next begun
  have blank' := Cursor.length_skipBlank_le cursor.skipBlank.next
  cases inside with
  | ended found =>
    obtain ⟨rfl, more, brace⟩ := nextKey_eq_none found
    obtain ⟨-, rfl⟩ := endObject_eq_ok ended
    rw [Cursor.skipBlank_skipBlank]
    have shorter' := Cursor.length_next brace
    refine ⟨by omega, fun steps enough => ?_⟩
    obtain ⟨steps, rfl⟩ : ∃ more, steps = more + 1 := ⟨steps - 1, by omega⟩
    rw [skipValueFrom, begun]
    simp only [brace]
    rfl
  | member found colon read others =>
    obtain ⟨start, ⟨more, quote⟩, named, place⟩ := nextKey_eq_some found
    rw [if_pos rfl] at place
    subst place
    have again := Cursor.skipBlank_skipBlank cursor.skipBlank.next
    obtain ⟨skipped, behindKey⟩ := skip_key (again.symm ▸ quote) (again.symm ▸ named) colon
    obtain ⟨fewer, skips⟩ := skip_member values skipped behindKey read (skip_behindMember values others rfl ended)
    refine ⟨by omega, fun steps enough => ?_⟩
    obtain ⟨steps, rfl⟩ : ∃ more, steps = more + 1 := ⟨steps - 1, by omega⟩
    rw [skipValueFrom, begun]
    simp only [quote]
    exact skips steps (by omega)

theorem skips_values (keep : Members → Members) (levels : Nat) : SkipsValues keep levels := by
  have scalar {cursor behind : Cursor} {json : Json}
      (begun : scalar? cursor.skipBlank = some (.ok (json, behind))) :
      behind.rest.length ≤ cursor.rest.length ∧
        ∀ steps, 2 * cursor.rest.length + 2 ≤ steps → skipValueFrom steps cursor = .ok behind := by
    obtain ⟨fewer, skips⟩ := skip_scalar (scalar_of_ok begun)
    refine ⟨fewer, fun steps enough => ?_⟩
    obtain ⟨steps, rfl⟩ : ∃ more, steps = more + 1 := ⟨steps - 1, by omega⟩
    exact skips steps
  induction levels with
  | zero =>
    intro cursor json behind read
    cases reading_of_ok read with
    | scalar begun => exact scalar begun
  | succ levels ih =>
    intro cursor json behind read
    cases reading_of_ok read with
    | scalar begun => exact scalar begun
    | list begun inside ended => exact skip_list ih begun inside ended
    | object begun inside ended => exact skip_object ih begun inside ended

theorem skipValue_of_read {levels : Nat} (read : readValue keep levels cursor = .ok (json, behind)) :
    skipValue cursor = .ok behind :=
  (skips_values keep levels cursor json behind read).2 _ (Nat.le_refl _)

end ComponentDocs.Json
