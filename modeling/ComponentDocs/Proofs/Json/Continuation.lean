import ComponentDocs.Proofs.Json.Nesting
import ComponentDocs.Proofs.Json.SkippedTokens
import ComponentDocs.Proofs.Json.Tokens

/-! Tokens are read in the same way wherever they stand: at another position, and in a text that
goes on behind them. -/
namespace ComponentDocs.Json

/-- The other cursor has the same text before it, and then `tail`. -/
def Cursor.ExtendedBy (tail : List Char) (cursor longer : Cursor) : Prop := longer.rest = cursor.rest ++ tail

namespace Cursor.ExtendedBy

variable {tail : List Char} {cursor longer : Cursor} {c : Char} {rest : List Char}

theorem rest_eq (extended : cursor.ExtendedBy tail longer) (known : cursor.rest = c :: rest) :
    longer.rest = c :: (rest ++ tail) := by
  rw [ExtendedBy, known, List.cons_append] at extended
  exact extended

theorem next (extended : cursor.ExtendedBy tail longer) (known : cursor.rest = c :: rest) :
    cursor.next.ExtendedBy tail longer.next := by
  rw [ExtendedBy, Cursor.rest_next known, Cursor.rest_next (extended.rest_eq known)]

theorem rest_skip (inClass : Char → Bool) (text : List Char) (position position' : Position)
    (more : (skip inClass text position).rest ≠ []) :
    (skip inClass (text ++ tail) position').rest = (skip inClass text position).rest ++ tail := by
  induction text generalizing position position' with
  | nil => exact absurd rfl more
  | cons c text ih =>
    rw [skip] at more ⊢
    rw [List.cons_append, skip]
    split
    · next inside =>
      rw [if_pos inside] at more
      exact ih _ _ more
    · rfl

theorem skipBlank (extended : cursor.ExtendedBy tail longer) (more : cursor.skipBlank.rest ≠ []) :
    cursor.skipBlank.ExtendedBy tail longer.skipBlank := by
  rw [ExtendedBy] at extended ⊢
  rw [Cursor.skipBlank, extended]
  exact rest_skip isBlank _ _ _ more

theorem rest_skipBlank (extended : cursor.ExtendedBy tail longer) (known : cursor.skipBlank.rest = c :: rest) :
    longer.skipBlank.rest = c :: (rest ++ tail) := by
  apply rest_eq (extended.skipBlank _) known
  rw [known]
  exact List.cons_ne_nil c rest

theorem next_skipBlank (extended : cursor.ExtendedBy tail longer) (known : cursor.skipBlank.rest = c :: rest) :
    cursor.skipBlank.next.ExtendedBy tail longer.skipBlank.next := by
  apply next (extended.skipBlank _) known
  rw [known]
  exact List.cons_ne_nil c rest

theorem length_le (extended : cursor.ExtendedBy tail longer) : cursor.rest.length ≤ longer.rest.length := by
  rw [extended, List.length_append]
  exact Nat.le_add_right _ _

end Cursor.ExtendedBy

open Cursor (ExtendedBy)

variable {tail : List Char} {cursor longer behind : Cursor}

section Marks

variable {first : Bool}

theorem nextItem_extended (extended : cursor.ExtendedBy tail longer) {goesOn : Bool}
    (read : nextItem first cursor = .ok (goesOn, behind)) :
    ∃ behind', nextItem first longer = .ok (goesOn, behind') ∧ behind.ExtendedBy tail behind' := by
  cases goesOn with
  | false =>
    obtain ⟨rfl, rest, known⟩ := nextItem_eq_false read
    refine ⟨longer.skipBlank, ?_, extended.skipBlank (by simp [known])⟩
    simp only [nextItem, extended.rest_skipBlank known]
  | true =>
    obtain ⟨start, rfl, nonempty, noEnd, place⟩ := nextItem_eq_true read
    obtain ⟨c, rest, known⟩ := List.exists_cons_of_ne_nil nonempty
    have other : c ≠ ']' := by
      rintro rfl
      exact noEnd rest known
    split at place
    · next atOnce =>
      subst place
      refine ⟨longer.skipBlank, ?_, extended.skipBlank nonempty⟩
      simp [nextItem, extended.rest_skipBlank known, atOnce]
    · next later =>
      obtain ⟨⟨more, comma⟩, rfl⟩ := place
      have behindComma := extended.next_skipBlank comma
      refine ⟨longer.skipBlank.next.skipBlank, ?_, behindComma.skipBlank nonempty⟩
      simp [nextItem, extended.rest_skipBlank comma, behindComma.rest_skipBlank known, other, later]

theorem endList_extended (extended : cursor.ExtendedBy tail longer) (read : endList cursor = .ok behind) :
    ∃ behind', endList longer = .ok behind' ∧ behind.ExtendedBy tail behind' := by
  obtain ⟨⟨rest, known⟩, rfl⟩ := endList_eq_ok read
  refine ⟨longer.skipBlank.next, ?_, extended.next_skipBlank known⟩
  simp only [endList, extended.rest_skipBlank known]

theorem endObject_extended (extended : cursor.ExtendedBy tail longer) (read : endObject cursor = .ok behind) :
    ∃ behind', endObject longer = .ok behind' ∧ behind.ExtendedBy tail behind' := by
  obtain ⟨⟨rest, known⟩, rfl⟩ := endObject_eq_ok read
  refine ⟨longer.skipBlank.next, ?_, extended.next_skipBlank known⟩
  simp only [endObject, extended.rest_skipBlank known]

theorem readColon_extended (extended : cursor.ExtendedBy tail longer) (read : readColon cursor = .ok behind) :
    ∃ behind', readColon longer = .ok behind' ∧ behind.ExtendedBy tail behind' := by
  obtain ⟨⟨rest, known⟩, rfl⟩ := readColon_eq_ok read
  refine ⟨longer.skipBlank.next, ?_, extended.next_skipBlank known⟩
  simp only [readColon, extended.rest_skipBlank known]

end Marks

section Strings

theorem hexUnit_extended (extended : cursor.ExtendedBy tail longer) {unit : Nat}
    (read : hexUnit cursor = .ok (unit, behind)) :
    ∃ behind', hexUnit longer = .ok (unit, behind') ∧ behind.ExtendedBy tail behind' := by
  rw [hexUnit] at read
  split at read
  · cases read
  · next enough =>
    split at read
    · next a b c d rest known =>
      have known' := extended.rest_eq known
      have place : cursor.next.next.next.next.ExtendedBy tail longer.next.next.next.next := by
        have second := extended.next known
        have third := second.next (Cursor.rest_next known)
        have fourth := third.next (Cursor.rest_next (Cursor.rest_next known))
        exact fourth.next (Cursor.rest_next (Cursor.rest_next (Cursor.rest_next known)))
      simp only [known, List.take_succ_cons, List.take_zero] at enough
      refine ⟨longer.next.next.next.next, ?_, ?_⟩
      · rw [hexUnit]
        simp only [known', List.cons_append, List.take_succ_cons, List.take_zero, if_neg enough]
        split at read
        · next first second third fourth here =>
          cases read
          simp only [*]
        · cases read
      · split at read
        · cases read
          exact place
        · cases read
    · cases read

theorem inString_extended (extended : cursor.ExtendedBy tail longer) {expected : Char} {cause : Cause}
    (read : inString expected cause cursor = .ok behind) :
    ∃ behind', inString expected cause longer = .ok behind' ∧ behind.ExtendedBy tail behind' := by
  obtain ⟨rest, known, rfl⟩ := inString_eq_ok read
  refine ⟨longer.next, ?_, extended.next known⟩
  simp only [inString, extended.rest_eq known, if_true]

theorem numericEscape_extended (extended : cursor.ExtendedBy tail longer) {c : Char}
    (read : numericEscape cursor = .ok (c, behind)) :
    ∃ behind', numericEscape longer = .ok (c, behind') ∧ behind.ExtendedBy tail behind' := by
  rw [numericEscape, bind_eq_ok_iff] at read
  obtain ⟨⟨unit, next⟩, first, read⟩ := read
  obtain ⟨next', first', place⟩ := hexUnit_extended extended first
  simp only at read
  split at read
  · cases read
  · next noLow =>
    split at read
    · next high =>
      obtain ⟨second, slash, read⟩ := bind_eq_ok_iff.mp read
      obtain ⟨third, letter, read⟩ := bind_eq_ok_iff.mp read
      obtain ⟨⟨low, last⟩, unit, read⟩ := bind_eq_ok_iff.mp read
      obtain ⟨second', slash', place⟩ := inString_extended place slash
      obtain ⟨third', letter', place⟩ := inString_extended place letter
      obtain ⟨last', unit', place⟩ := hexUnit_extended place unit
      simp only at read
      split at read
      · next paired =>
        simp only [pure, Except.pure, Except.ok.injEq, Prod.mk.injEq] at read
        obtain ⟨rfl, rfl⟩ := read
        refine ⟨last', ?_, place⟩
        simp only [numericEscape, first', slash', letter', unit', bind, Except.bind, if_neg noLow, if_pos high,
          if_pos paired]
        rfl
      · cases read
    · next noHigh =>
      cases read
      refine ⟨next', ?_, place⟩
      simp only [numericEscape, first', bind, Except.bind, if_neg noLow, if_neg noHigh]
      rfl

theorem escape_extended (extended : cursor.ExtendedBy tail longer) {c : Char}
    (read : escape cursor = .ok (c, behind)) :
    ∃ behind', escape longer = .ok (c, behind') ∧ behind.ExtendedBy tail behind' := by
  rw [escape] at read
  split at read
  · cases read
  · next rest known =>
    obtain ⟨behind', read', place⟩ := numericEscape_extended (extended.next known) read
    refine ⟨behind', ?_, place⟩
    simp only [escape, extended.rest_eq known, read']
  · next letter rest noNumber known =>
    split at read
    · next char simple =>
      cases read
      refine ⟨longer.next, ?_, extended.next known⟩
      rw [escape, extended.rest_eq known]
      split
      · next same => cases same
      · next same => exact absurd (List.cons.inj same).1 noNumber
      · next same =>
        obtain ⟨rfl, -⟩ := List.cons.inj same
        simp only [simple]
    · cases read

theorem stringFrom_extended {steps steps' : Nat} (enough : steps ≤ steps') {reversed : List Char} {text : String}
    (extended : cursor.ExtendedBy tail longer) (read : stringFrom steps reversed cursor = .ok (text, behind)) :
    ∃ behind', stringFrom steps' reversed longer = .ok (text, behind') ∧ behind.ExtendedBy tail behind' := by
  induction steps generalizing steps' reversed cursor longer with
  | zero => cases read
  | succ steps ih =>
    obtain ⟨steps', rfl⟩ : ∃ more, steps' = more + 1 := ⟨steps' - 1, by omega⟩
    have enough : steps ≤ steps' := by omega
    rw [stringFrom] at read
    split at read
    · cases read
    · next rest known =>
      cases read
      refine ⟨longer.next, ?_, extended.next known⟩
      simp only [stringFrom, extended.rest_eq known]
    · next rest known =>
      split at read
      · next c next escaped =>
        obtain ⟨next', escaped', place⟩ := escape_extended (extended.next known) escaped
        obtain ⟨behind', read', place⟩ := ih enough place read
        refine ⟨behind', ?_, place⟩
        simp only [stringFrom, extended.rest_eq known, escaped', read']
      · cases read
    · next c rest noQuote noSlash known =>
      split at read
      · cases read
      · next printable =>
        obtain ⟨behind', read', place⟩ := ih enough (extended.next known) read
        refine ⟨behind', ?_, place⟩
        rw [stringFrom, extended.rest_eq known]
        split
        · next same => cases same
        · next same => exact absurd (List.cons.inj same).1 noQuote
        · next same => exact absurd (List.cons.inj same).1 noSlash
        · next same =>
          obtain ⟨rfl, -⟩ := List.cons.inj same
          rw [if_neg printable, read']

theorem readString_extended (extended : cursor.ExtendedBy tail longer) {text : String}
    (read : readString cursor = .ok (text, behind)) :
    ∃ behind', readString longer = .ok (text, behind') ∧ behind.ExtendedBy tail behind' :=
  stringFrom_extended (Nat.succ_le_succ extended.length_le) extended read

theorem readLiteral_extended {expected : List Char} (extended : cursor.ExtendedBy tail longer)
    (read : readLiteral expected cursor = .ok behind) :
    ∃ behind', readLiteral expected longer = .ok behind' ∧ behind.ExtendedBy tail behind' := by
  induction expected generalizing cursor longer with
  | nil =>
    cases read
    exact ⟨longer, rfl, extended⟩
  | cons c expected ih =>
    rw [readLiteral] at read
    split at read
    · cases read
    · next first rest known =>
      split at read
      · next same =>
        obtain ⟨behind', read', place⟩ := ih (extended.next known) read
        refine ⟨behind', ?_, place⟩
        simp only [readLiteral, extended.rest_eq known, if_pos same, read']
      · cases read

end Strings

section Keys

variable {first : Bool}

theorem nextKey_extended (extended : cursor.ExtendedBy tail longer) {key? : Option String}
    (read : nextKey first cursor = .ok (key?, behind)) :
    ∃ behind', nextKey first longer = .ok (key?, behind') ∧ behind.ExtendedBy tail behind' := by
  cases key? with
  | none =>
    obtain ⟨rfl, rest, known⟩ := nextKey_eq_none read
    refine ⟨longer.skipBlank, ?_, extended.skipBlank (by simp [known])⟩
    simp only [nextKey, extended.rest_skipBlank known]
  | some key =>
    obtain ⟨start, ⟨rest, quote⟩, string, place⟩ := nextKey_eq_some read
    split at place
    · next atOnce =>
      subst place
      obtain ⟨behind', string', place⟩ := readString_extended (extended.next_skipBlank quote) string
      refine ⟨behind', ?_, place⟩
      simp [nextKey, extended.rest_skipBlank quote, atOnce, readKey, string']
    · next later =>
      obtain ⟨⟨more, comma⟩, rfl⟩ := place
      have behindComma := extended.next_skipBlank comma
      obtain ⟨behind', string', place⟩ := readString_extended (behindComma.next_skipBlank quote) string
      refine ⟨behind', ?_, place⟩
      simp [nextKey, extended.rest_skipBlank comma, behindComma.rest_skipBlank quote, later, readKey, string']

end Keys

section Numbers

variable {parts : Significand} {number : Number}

theorem span_extended (inClass : Char → Bool) (text : List Char) (position position' : Position)
    (ends : ∀ c, tail.head? = some c → inClass c = false) :
    ∃ run last last', Cursor.span inClass text position = (run, last) ∧
      Cursor.span inClass (text ++ tail) position' = (run, last') ∧ last.ExtendedBy tail last' := by
  induction text generalizing position position' with
  | nil =>
    cases tail with
    | nil => exact ⟨[], _, _, rfl, rfl, rfl⟩
    | cons c tail =>
      have outside : inClass c = false := ends c rfl
      refine ⟨[], ⟨[], position⟩, ⟨c :: tail, position'⟩, rfl, ?_, rfl⟩
      simp only [List.nil_append, Cursor.span, outside, Bool.false_eq_true, if_false]
  | cons c text ih =>
    rw [List.cons_append, Cursor.span, Cursor.span]
    split
    · obtain ⟨run, last, last', spanned, spanned', place⟩ := ih (position.after c) (position'.after c)
      exact ⟨c :: run, last, last', by rw [spanned], by rw [spanned'], place⟩
    · exact ⟨[], _, _, rfl, rfl, rfl⟩

theorem digits_extended (ends : EndsNumber tail) (extended : cursor.ExtendedBy tail longer) :
    ∃ run last last', digits cursor = (run, last) ∧ digits longer = (run, last') ∧ last.ExtendedBy tail last' := by
  obtain ⟨run, last, last', spanned, spanned', place⟩ :=
    span_extended isDigit cursor.rest cursor.position longer.position fun c first => (ends c first).1
  rw [← extended] at spanned'
  refine ⟨run.map fun c => c.toNat - '0'.toNat, last, last', ?_, ?_, place⟩
  · rw [digits, spanned]
  · rw [digits, spanned']

theorem ofSignificand_extended (extended : cursor.ExtendedBy tail longer)
    (read : ofSignificand parts cursor = .ok (number, behind)) :
    ∃ behind', ofSignificand parts longer = .ok (number, behind') ∧ behind.ExtendedBy tail behind' := by
  rw [ofSignificand] at read ⊢
  split at read
  · cases read
    exact ⟨longer, rfl, extended⟩
  · cases read

theorem exponentSign_extended (extended : cursor.ExtendedBy tail longer) {c : Char} {rest : List Char}
    (known : cursor.rest = c :: rest) :
    (exponentSign longer).1 = (exponentSign cursor).1 ∧
      (exponentSign cursor).2.ExtendedBy tail (exponentSign longer).2 := by
  rw [exponentSign, exponentSign, extended.rest_eq known, known]
  by_cases plus : c = '+'
  · subst plus
    exact ⟨rfl, extended.next known⟩
  · by_cases minus : c = '-'
    · subst minus
      exact ⟨rfl, extended.next known⟩
    · simp [plus, minus, extended]

theorem exponentDigits_extended (ends : EndsNumber tail) {down : Bool} (extended : cursor.ExtendedBy tail longer)
    (read : exponentDigits parts down cursor = .ok (number, behind)) :
    ∃ behind', exponentDigits parts down longer = .ok (number, behind') ∧ behind.ExtendedBy tail behind' := by
  obtain ⟨run, last, last', found, found', place⟩ := digits_extended ends extended
  rcases run with _ | ⟨digit, run⟩
  · rcases known : cursor.rest with _ | ⟨c, rest⟩ <;> simp [exponentDigits, found, known] at read
  · simp only [exponentDigits, found, found'] at read ⊢
    split at read
    · next all =>
      rw [if_pos all]
      exact ofSignificand_extended place read
    · next notAll =>
      rw [if_neg notAll]
      split at read
      · cases read
      · next small =>
        rw [if_neg small]
        exact ofSignificand_extended place read

theorem exponentPart_extended (ends : EndsNumber tail) (extended : cursor.ExtendedBy tail longer)
    (read : exponentPart parts cursor = .ok (number, behind)) :
    ∃ behind', exponentPart parts longer = .ok (number, behind') ∧ behind.ExtendedBy tail behind' := by
  rw [exponentPart_eq] at read ⊢
  rcases known : cursor.rest with _ | ⟨c, rest⟩
  · simp [exponentSign, exponentDigits, digits, known, Cursor.span] at read
  · obtain ⟨down, place⟩ := exponentSign_extended extended known
    rw [down]
    exact exponentDigits_extended ends place read

/-- What does not follow a number does not follow it in the longer text either. -/
theorem not_follows {c : Char} (mark : c = '.' ∨ c = 'e' ∨ c = 'E') (ends : EndsNumber tail)
    (extended : cursor.ExtendedBy tail longer) (absent : ∀ rest, cursor.rest ≠ c :: rest) (rest : List Char) :
    longer.rest ≠ c :: rest := by
  intro there
  rcases known : cursor.rest with _ | ⟨first, more⟩
  · rw [ExtendedBy, known, List.nil_append] at extended
    rw [extended] at there
    obtain ⟨-, point, lower, upper⟩ := ends c (by rw [there]; rfl)
    rcases mark with rfl | rfl | rfl <;> contradiction
  · rw [extended.rest_eq known] at there
    obtain ⟨rfl, -⟩ := List.cons.inj there
    exact absent more known

theorem fractionPart_extended (ends : EndsNumber tail) (extended : cursor.ExtendedBy tail longer)
    (read : fractionPart parts cursor = .ok (number, behind)) :
    ∃ behind', fractionPart parts longer = .ok (number, behind') ∧ behind.ExtendedBy tail behind' := by
  obtain ⟨run, last, last', found, found', place⟩ := digits_extended ends extended
  rcases run with _ | ⟨digit, run⟩
  · rcases known : cursor.rest with _ | ⟨c, rest⟩ <;> simp [fractionPart, found, known] at read
  · simp only [fractionPart, found, found'] at read ⊢
    split at read
    · next rest known =>
      simp only [place.rest_eq known]
      exact exponentPart_extended ends (place.next known) read
    · next rest known =>
      simp only [place.rest_eq known]
      exact exponentPart_extended ends (place.next known) read
    · next noLower noUpper =>
      split
      · next rest known => exact absurd known (not_follows (.inr (.inl rfl)) ends place noLower rest)
      · next rest known => exact absurd known (not_follows (.inr (.inr rfl)) ends place noUpper rest)
      · exact ofSignificand_extended place read

theorem whole_extended (extended : cursor.ExtendedBy tail longer)
    (read : whole parts cursor = .ok (number, behind)) :
    ∃ behind', whole parts longer = .ok (number, behind') ∧ behind.ExtendedBy tail behind' := by
  rw [whole] at read ⊢
  split at read
  · next scaled =>
    rw [if_pos scaled]
    exact ofSignificand_extended extended read
  · next exact' =>
    rw [if_neg exact']
    split at read
    · next natural =>
      cases read
      exact ⟨longer, by rw [if_pos natural], extended⟩
    · next negative =>
      rw [if_neg negative]
      split at read
      · next small =>
        cases read
        exact ⟨longer, by rw [if_pos small], extended⟩
      · next large =>
        rw [if_neg large]
        exact ofSignificand_extended extended read

theorem wholePart_extended (ends : EndsNumber tail) (extended : cursor.ExtendedBy tail longer)
    (read : wholePart parts cursor = .ok (number, behind)) :
    ∃ behind', wholePart parts longer = .ok (number, behind') ∧ behind.ExtendedBy tail behind' := by
  rw [wholePart] at read
  split at read
  · next rest known =>
    simp only [wholePart, extended.rest_eq known]
    exact fractionPart_extended ends (extended.next known) read
  · next rest known =>
    simp only [wholePart, extended.rest_eq known]
    exact exponentPart_extended ends (extended.next known) read
  · next rest known =>
    simp only [wholePart, extended.rest_eq known]
    exact exponentPart_extended ends (extended.next known) read
  · next noPoint noLower noUpper =>
    rw [wholePart]
    split
    · next rest known => exact absurd known (not_follows (.inl rfl) ends extended noPoint rest)
    · next rest known => exact absurd known (not_follows (.inr (.inl rfl)) ends extended noLower rest)
    · next rest known => exact absurd known (not_follows (.inr (.inr rfl)) ends extended noUpper rest)
    · exact whole_extended extended read

theorem readNumber_extended (ends : EndsNumber tail) {negative : Bool} (extended : cursor.ExtendedBy tail longer)
    (read : readNumber negative cursor = .ok (number, behind)) :
    ∃ behind', readNumber negative longer = .ok (number, behind') ∧ behind.ExtendedBy tail behind' := by
  rw [readNumber] at read
  split at read
  · cases read
  · next more known =>
    have place := extended.next known
    split at read
    · next c rest =>
      split at read
      · cases read
      · next noDigit =>
        simp only [readNumber, extended.rest_eq known, List.cons_append, noDigit, Bool.false_eq_true, if_false]
        exact wholePart_extended ends place read
    · simp only [readNumber, extended.rest_eq known, List.nil_append]
      cases tail with
      | nil => exact wholePart_extended ends place read
      | cons c tail =>
        have noDigit : isDigit c = false := (ends c rfl).1
        simp only [noDigit, Bool.false_eq_true, if_false]
        exact wholePart_extended ends place read
  · next c rest noZero known =>
    split at read
    · next digit =>
      obtain ⟨run, last, last', found, found', place⟩ := digits_extended ends extended
      simp only [found] at read
      obtain ⟨behind', read', place⟩ := wholePart_extended ends place read
      refine ⟨behind', ?_, place⟩
      rw [readNumber, extended.rest_eq known]
      split
      · next same => cases same
      · next same => exact absurd (List.cons.inj same).1 noZero
      · next same =>
        obtain ⟨rfl, -⟩ := List.cons.inj same
        simp only [if_pos digit, found', read']
    · cases read

end Numbers

section Scalars

theorem literalValue_extended {rest : List Char} {value json : Json} {c : Char} {more : List Char}
    (extended : cursor.ExtendedBy tail longer) (known : cursor.rest = c :: more)
    (read : literalValue rest value cursor = .ok (json, behind)) :
    ∃ behind', literalValue rest value longer = .ok (json, behind') ∧ behind.ExtendedBy tail behind' := by
  obtain ⟨rfl, passed⟩ := literalValue_eq_ok read
  obtain ⟨behind', passed', place⟩ := readLiteral_extended (extended.next known) passed
  exact ⟨behind', by simp only [literalValue, passed'], place⟩

theorem numberValue_extended (ends : EndsNumber tail) {negative : Bool} {json : Json}
    (extended : cursor.ExtendedBy tail longer) (read : numberValue negative cursor = .ok (json, behind)) :
    ∃ behind', numberValue negative longer = .ok (json, behind') ∧ behind.ExtendedBy tail behind' := by
  obtain ⟨number, rfl, passed⟩ := numberValue_eq_ok read
  obtain ⟨behind', passed', place⟩ := readNumber_extended ends extended passed
  exact ⟨behind', by simp only [numberValue, passed'], place⟩

/-- A value without inner values is read in the same way if what follows could not continue a number. -/
theorem scalar?_extended (ends : EndsNumber tail) {json : Json} (extended : cursor.ExtendedBy tail longer)
    (begun : scalar? cursor = some (.ok (json, behind))) :
    ∃ behind', scalar? longer = some (.ok (json, behind')) ∧ behind.ExtendedBy tail behind' := by
  rw [scalar?] at begun
  split at begun
  · next rest known =>
    obtain ⟨behind', read, place⟩ := literalValue_extended extended known (Option.some.inj begun)
    exact ⟨behind', by simp only [scalar?, extended.rest_eq known, read], place⟩
  · next rest known =>
    obtain ⟨behind', read, place⟩ := literalValue_extended extended known (Option.some.inj begun)
    exact ⟨behind', by simp only [scalar?, extended.rest_eq known, read], place⟩
  · next rest known =>
    obtain ⟨behind', read, place⟩ := literalValue_extended extended known (Option.some.inj begun)
    exact ⟨behind', by simp only [scalar?, extended.rest_eq known, read], place⟩
  · next rest known =>
    obtain ⟨behind', read, place⟩ := numberValue_extended ends (extended.next known) (Option.some.inj begun)
    exact ⟨behind', by simp only [scalar?, extended.rest_eq known, read], place⟩
  · next rest known =>
    have read := Option.some.inj begun
    split at read
    · next text last string =>
      cases read
      obtain ⟨behind', string', place⟩ := readString_extended (extended.next known) string
      exact ⟨behind', by simp only [scalar?, extended.rest_eq known, string'], place⟩
    · cases read
  · next c rest noNull noTrue noFalse noMinus noQuote known =>
    split at begun
    · next digit =>
      obtain ⟨behind', read, place⟩ := numberValue_extended ends extended (Option.some.inj begun)
      refine ⟨behind', ?_, place⟩
      simp only [scalar?, extended.rest_eq known, digit, if_true, read]
    · cases begun
  · cases begun

end Scalars

end ComponentDocs.Json
