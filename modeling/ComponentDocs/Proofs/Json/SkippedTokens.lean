import ComponentDocs.Json.Skip
import ComponentDocs.Proofs.Json.Cursor
import ComponentDocs.Proofs.Outcomes

/-! Strings and numbers that can be read can be passed over, and that leads to the same place.
Passing over checks less: surrogates need not pair up, and numbers have no range. -/
namespace ComponentDocs.Json

section Strings

variable {cursor behind : Cursor} {c : Char}

theorem hexUnit_length {unit : Nat} (read : hexUnit cursor = .ok (unit, behind)) :
    behind.rest.length + 4 = cursor.rest.length := by
  rw [hexUnit] at read
  split at read
  · cases read
  · split at read
    · next a b c d rest known =>
      split at read
      · cases read
        obtain ⟨_, position⟩ := cursor
        obtain rfl : _ = a :: b :: c :: d :: rest := known
        rfl
      · cases read
    · cases read

theorem inString_eq_ok {expected : Char} {cause : Cause} (read : inString expected cause cursor = .ok behind) :
    ∃ rest, cursor.rest = expected :: rest ∧ behind = cursor.next := by
  rw [inString] at read
  split at read
  · cases read
  · next first rest known =>
    split at read
    · next same =>
      cases read
      exact ⟨rest, same ▸ known, rfl⟩
    · cases read

/-- The character of a numeric escape takes one code unit, or two of them with an escape between. -/
theorem numericEscape_eq_ok (read : numericEscape cursor = .ok (c, behind)) :
    ∃ unit next, hexUnit cursor = .ok (unit, next) ∧
      (behind = next ∨ ∃ rest low, next.rest = '\\' :: 'u' :: rest ∧
        hexUnit next.next.next = .ok (low, behind)) := by
  rw [numericEscape, bind_eq_ok_iff] at read
  obtain ⟨⟨unit, next⟩, first, read⟩ := read
  refine ⟨unit, next, first, ?_⟩
  simp only at read
  split at read
  · cases read
  · split at read
    · obtain ⟨second, slash, behindSlash⟩ := bind_eq_ok_iff.mp read
      obtain ⟨third, letter, behindLetter⟩ := bind_eq_ok_iff.mp behindSlash
      obtain ⟨⟨low, last⟩, unit, paired⟩ := bind_eq_ok_iff.mp behindLetter
      obtain ⟨rest, known, rfl⟩ := inString_eq_ok slash
      obtain ⟨rest', known', rfl⟩ := inString_eq_ok letter
      rw [Cursor.rest_next known] at known'
      subst known'
      split at paired
      · simp only [pure, Except.pure, Except.ok.injEq, Prod.mk.injEq] at paired
        obtain ⟨-, rfl⟩ := paired
        exact .inr ⟨rest', low, known, unit⟩
      · cases paired
    · cases read
      exact .inl rfl

theorem skipStringFrom_unit {rest : List Char} {unit : Nat} (known : cursor.rest = '\\' :: 'u' :: rest)
    (read : hexUnit cursor.next.next = .ok (unit, behind)) (left : Nat) :
    skipStringFrom (left + 1) cursor = skipStringFrom left behind := by
  rw [skipStringFrom, known]
  simp only [Cursor.rest_next known, read]

/-- A character that begins no escape and ends no string is passed over in one step. -/
theorem skipStringFrom_plain {rest : List Char} (known : cursor.rest = c :: rest) (noQuote : c ≠ '\"')
    (noSlash : c ≠ '\\') (printable : ¬ c.toNat < 32) (left : Nat) :
    skipStringFrom (left + 1) cursor = skipStringFrom left cursor.next := by
  rw [skipStringFrom]
  split
  · next empty =>
    rw [known] at empty
    cases empty
  · next more quote =>
    rw [known] at quote
    exact (noQuote (List.cons.inj quote).1).elim
  · next more slash =>
    rw [known] at slash
    exact (noSlash (List.cons.inj slash).1).elim
  · next second more _ _ same =>
    rw [known] at same
    cases same
    rw [if_neg printable]

theorem skip_escape {rest : List Char} (known : cursor.rest = '\\' :: rest)
    (read : escape cursor.next = .ok (c, behind)) :
    ∃ used, 1 ≤ used ∧ used + behind.rest.length ≤ cursor.rest.length ∧
      ∀ left, skipStringFrom (left + used) cursor = skipStringFrom left behind := by
  have shorter := Cursor.length_next known
  rw [escape] at read
  split at read
  · cases read
  · next more begun =>
    have whole : cursor.rest = '\\' :: 'u' :: more := by
      rw [known, ← begun, Cursor.rest_next known]
    have shorter' := Cursor.length_next begun
    obtain ⟨unit, next, first, rfl | ⟨rest', low, pair, second⟩⟩ := numericEscape_eq_ok read
    · have taken := hexUnit_length first
      refine ⟨1, Nat.le_refl 1, by omega, fun left => skipStringFrom_unit whole first left⟩
    · have taken := hexUnit_length first
      have taken' := hexUnit_length second
      have low' := Cursor.length_next pair
      have low'' := Cursor.length_next (Cursor.rest_next pair)
      refine ⟨2, by omega, by omega, fun left => ?_⟩
      rw [show left + 2 = left + 1 + 1 from rfl, skipStringFrom_unit whole first,
        skipStringFrom_unit pair second]
  · next first more other begun =>
    split at read
    · next letter simple =>
      cases read
      have shorter' := Cursor.length_next begun
      refine ⟨1, Nat.le_refl 1, by omega, fun left => ?_⟩
      rw [skipStringFrom, known]
      simp only [begun, simple]
    · cases read

theorem skip_string {steps : Nat} {reversed : List Char} {text : String}
    (read : stringFrom steps reversed cursor = .ok (text, behind)) :
    behind.rest.length < cursor.rest.length ∧
      ∀ left, cursor.rest.length < left → skipStringFrom left cursor = .ok behind := by
  induction steps generalizing reversed cursor with
  | zero => cases read
  | succ steps ih =>
    rw [stringFrom] at read
    split at read
    · cases read
    · next rest known =>
      cases read
      have shorter := Cursor.length_next known
      refine ⟨by omega, fun left enough => ?_⟩
      obtain ⟨left, rfl⟩ : ∃ more, left = more + 1 := ⟨left - 1, by omega⟩
      rw [skipStringFrom, known]
      rfl
    · next rest known =>
      split at read
      · next letter next escaped =>
        obtain ⟨used, some, fewer, skips⟩ := skip_escape known escaped
        obtain ⟨less, rest⟩ := ih read
        refine ⟨by omega, fun left enough => ?_⟩
        obtain ⟨left, rfl⟩ : ∃ more, left = more + used := ⟨left - used, by omega⟩
        rw [skips]
        exact rest left (by omega)
      · cases read
    · next first rest noQuote noSlash known =>
      split at read
      · cases read
      · next printable =>
        have shorter := Cursor.length_next known
        obtain ⟨less, rest⟩ := ih read
        refine ⟨by omega, fun left enough => ?_⟩
        obtain ⟨left, rfl⟩ : ∃ more, left = more + 1 := ⟨left - 1, by omega⟩
        rw [skipStringFrom_plain known noQuote noSlash printable]
        exact rest left (by omega)

end Strings

section Numbers

variable {cursor behind : Cursor} {parts : Significand} {number : Number}

theorem digits_snd (cursor : Cursor) : (digits cursor).2 = skipDigits cursor := by
  rw [skipDigits, Cursor.skip_eq, digits]

theorem length_skipDigits_le (cursor : Cursor) : (skipDigits cursor).rest.length ≤ cursor.rest.length :=
  Cursor.length_skip_le isDigit cursor.rest cursor.position

theorem digit_of_digits {digit : Nat} {run : List Nat} (read : digits cursor = (digit :: run, behind)) :
    behind = skipDigits cursor ∧ ∃ c rest, cursor.rest = c :: rest ∧ isDigit c := by
  have place : behind = skipDigits cursor := by rw [← digits_snd, read]
  refine ⟨place, ?_⟩
  rcases known : cursor.rest with _ | ⟨c, rest⟩
  · rw [digits, known] at read
    cases read
  · by_cases inside : isDigit c
    · exact ⟨c, rest, rfl, inside⟩
    · rw [digits, known, Cursor.span, if_neg inside] at read
      cases read

theorem ofSignificand_eq_ok (read : ofSignificand parts cursor = .ok (number, behind)) : behind = cursor := by
  rw [ofSignificand] at read
  split at read
  · cases read
    rfl
  · cases read

/-- The exponent of a number, behind its sign. -/
def exponentDigits (parts : Significand) (down : Bool) (cursor : Cursor) : Except Fault (Number × Cursor) :=
  match digits cursor, cursor.rest with
  | ([], _), [] => .error (cursor.fault .endInValue)
  | ([], _), _ => .error (cursor.faultNext .invalidNumber)
  | (run, behind), _ =>
    let (power, count) := appendDigits exponentLimit 0 run
    if count = run.length then
      let shift : Int := if down then -power else power
      ofSignificand { parts with exponent := parts.exponent + shift } behind
    else if parts.value ≠ 0 ∧ !down then
      .error (cursor.faultAfter (count + 1) .numberOutOfRange)
    else
      ofSignificand { parts with value := 0, exponent := 0 } behind

/-- Whether an exponent points down, and the cursor behind its sign. -/
def exponentSign (cursor : Cursor) : Bool × Cursor :=
  match cursor.rest with
  | '+' :: _ => (false, cursor.next)
  | '-' :: _ => (true, cursor.next)
  | _ => (false, cursor)

theorem exponentPart_eq (parts : Significand) (cursor : Cursor) :
    exponentPart parts cursor = exponentDigits parts (exponentSign cursor).1 (exponentSign cursor).2 := rfl

/-- Behind the sign of an exponent both readers go over the same digits. -/
theorem digits_of_exponent {cursor : Cursor} {down : Bool}
    (read : exponentDigits parts down cursor = .ok (number, behind)) :
    behind = skipDigits cursor ∧ ∃ c rest, cursor.rest = c :: rest ∧ isDigit c := by
  rcases found : digits cursor with ⟨_ | ⟨digit, run⟩, last⟩
  · rcases known : cursor.rest with _ | ⟨c, rest⟩ <;> simp [exponentDigits, found, known] at read
  · obtain ⟨rfl, begun⟩ := digit_of_digits found
    refine ⟨?_, begun⟩
    simp only [exponentDigits, found] at read
    split at read
    · exact ofSignificand_eq_ok read
    · split at read
      · cases read
      · exact ofSignificand_eq_ok read

theorem skip_exponent (read : exponentPart parts cursor = .ok (number, behind)) :
    skipExponent cursor = .ok behind := by
  rw [exponentPart_eq] at read
  obtain ⟨rfl, c, rest, begun, digit⟩ := digits_of_exponent read
  rw [exponentSign] at begun ⊢
  rw [skipExponent]
  split at begun
  · simp only at begun
    simp only [*, if_true]
  · simp only at begun
    simp only [*, if_true]
  · next noPlus noMinus =>
    simp only at begun ⊢
    -- no sign is passed over
    simp only [begun, digit, if_true]

theorem skip_fraction (read : fractionPart parts cursor = .ok (number, behind)) :
    skipExponent? (skipDigits cursor) = .ok behind ∧ ∃ c rest, cursor.rest = c :: rest ∧ isDigit c := by
  rw [fractionPart] at read
  rcases found : digits cursor with ⟨_ | ⟨digit, run⟩, last⟩
  · rcases known : cursor.rest with _ | ⟨c, rest⟩ <;> simp [found, known] at read
  · obtain ⟨rfl, begun⟩ := digit_of_digits found
    refine ⟨?_, begun⟩
    simp only [found] at read
    split at read
    · next more known =>
      rw [skipExponent?, known]
      exact skip_exponent read
    · next more known =>
      rw [skipExponent?, known]
      exact skip_exponent read
    · next noLower noUpper =>
      obtain rfl := ofSignificand_eq_ok read
      rw [skipExponent?]
      split
      · next more known => exact absurd known (noLower more)
      · next more known => exact absurd known (noUpper more)
      · rfl

theorem whole_eq_ok (read : whole parts cursor = .ok (number, behind)) : behind = cursor := by
  rw [whole] at read
  split at read
  · exact ofSignificand_eq_ok read
  · split at read
    · cases read
      rfl
    · split at read
      · cases read
        rfl
      · exact ofSignificand_eq_ok read

theorem skip_wholePart (read : wholePart parts cursor = .ok (number, behind)) :
    skipWholePart cursor = .ok behind := by
  rw [wholePart] at read
  split at read
  · next more known =>
    obtain ⟨skipped, c, rest, begun, digit⟩ := skip_fraction read
    rw [skipWholePart, known]
    simp only [begun, digit, if_true]
    exact skipped
  · next more known =>
    rw [skipWholePart, known, skipExponent?, known]
    exact skip_exponent read
  · next more known =>
    rw [skipWholePart, known, skipExponent?, known]
    exact skip_exponent read
  · next noPoint noLower noUpper =>
    obtain rfl := whole_eq_ok read
    rw [skipWholePart]
    split
    · next more known => exact absurd known (noPoint more)
    · rw [skipExponent?]
      split
      · next more known => exact absurd known (noLower more)
      · next more known => exact absurd known (noUpper more)
      · rfl

theorem skip_number {negative : Bool} (read : readNumber negative cursor = .ok (number, behind)) :
    skipNumber cursor = .ok behind := by
  rw [readNumber] at read
  split at read
  · cases read
  · next more known =>
    split at read
    · next c rest =>
      split at read
      · cases read
      · next noDigit =>
        rw [skipNumber, known]
        simp only [noDigit]
        exact skip_wholePart read
    · rw [skipNumber, known]
      exact skip_wholePart read
  · next c rest noZero known =>
    split at read
    · next digit =>
      have skipped : skipWholePart (skipDigits cursor) = .ok behind := by
        rw [← digits_snd]
        exact skip_wholePart read
      rw [skipNumber, known]
      split
      · next more same => exact absurd (List.cons.inj same).1 noZero
      · next first more _ same =>
        obtain ⟨rfl, rfl⟩ := List.cons.inj same
        rw [if_pos digit]
        exact skipped
      · next same => cases same
    · cases read

end Numbers

section Lengths

variable {cursor behind : Cursor}

theorem length_readLiteral_le {expected : List Char} (read : readLiteral expected cursor = .ok behind) :
    behind.rest.length ≤ cursor.rest.length := by
  induction expected generalizing cursor with
  | nil =>
    cases read
    exact Nat.le_refl _
  | cons c expected ih =>
    rw [readLiteral] at read
    split at read
    · cases read
    · next first rest known =>
      split at read
      · have shorter := Cursor.length_next known
        have fewer := ih read
        omega
      · cases read

/-- The place behind the sign of an exponent, if there is one. -/
theorem length_sign_le (cursor : Cursor) :
    (match cursor.rest with
      | '+' :: _ | '-' :: _ => cursor.next
      | _ => cursor).rest.length ≤ cursor.rest.length := by
  split
  · next rest known => exact Nat.le_of_succ_le (Nat.le_of_eq (Cursor.length_next known))
  · next rest known => exact Nat.le_of_succ_le (Nat.le_of_eq (Cursor.length_next known))
  · exact Nat.le_refl _

theorem length_skipExponent_le (skipped : skipExponent cursor = .ok behind) :
    behind.rest.length ≤ cursor.rest.length := by
  rw [skipExponent] at skipped
  split at skipped
  · split at skipped
    · cases skipped
      exact Nat.le_trans (length_skipDigits_le _) (length_sign_le cursor)
    · cases skipped
  · cases skipped

theorem length_skipExponent?_le (skipped : skipExponent? cursor = .ok behind) :
    behind.rest.length ≤ cursor.rest.length := by
  rw [skipExponent?] at skipped
  split at skipped
  · next rest known =>
    have shorter := Cursor.length_next known
    have fewer := length_skipExponent_le skipped
    omega
  · next rest known =>
    have shorter := Cursor.length_next known
    have fewer := length_skipExponent_le skipped
    omega
  · cases skipped
    exact Nat.le_refl _

theorem length_skipWholePart_le (skipped : skipWholePart cursor = .ok behind) :
    behind.rest.length ≤ cursor.rest.length := by
  rw [skipWholePart] at skipped
  split at skipped
  · next rest known =>
    have shorter := Cursor.length_next known
    simp only at skipped
    split at skipped
    · split at skipped
      · have run := length_skipDigits_le cursor.next
        have fewer := length_skipExponent?_le skipped
        omega
      · cases skipped
    · cases skipped
  · exact length_skipExponent?_le skipped

theorem length_skipNumber_le (skipped : skipNumber cursor = .ok behind) :
    behind.rest.length ≤ cursor.rest.length := by
  rw [skipNumber] at skipped
  split at skipped
  · next more known =>
    have shorter := Cursor.length_next known
    split at skipped
    · split at skipped
      · cases skipped
      · have fewer := length_skipWholePart_le skipped
        omega
    · have fewer := length_skipWholePart_le skipped
      omega
  · split at skipped
    · exact Nat.le_trans (length_skipWholePart_le skipped) (length_skipDigits_le cursor)
    · cases skipped
  · cases skipped

end Lengths

end ComponentDocs.Json
