import ComponentDocs.Json.Printer
import ComponentDocs.Json.Scan

/-! Tokens of JSON are read back from their printed form, whatever stands behind them.
Positions only serve the messages of faults, so they are left open here. -/
namespace ComponentDocs.Json

/-- Whether a reader comes to `value` with `rest` before it, at some position. -/
def Reaches {α : Type} (outcome : Except Fault (α × Cursor)) (value : α) (rest : List Char) : Prop :=
  ∃ position, outcome = .ok (value, ⟨rest, position⟩)

theorem skipBlank_of_not {c : Char} (solid : isBlank c = false) (rest : List Char)
    (position : Position) :
    Cursor.skipBlank ⟨c :: rest, position⟩ = ⟨c :: rest, position⟩ := by
  simp only [Cursor.skipBlank, Cursor.skip, solid, Bool.false_eq_true, if_false]

theorem skipBlank_append {blanks : List Char} (blank : ∀ c ∈ blanks, isBlank c) (rest : List Char)
    (position : Position) :
    ∃ behind, Cursor.skipBlank ⟨blanks ++ rest, position⟩ = Cursor.skipBlank ⟨rest, behind⟩ := by
  induction blanks generalizing position with
  | nil => exact ⟨position, rfl⟩
  | cons c blanks ih =>
    obtain ⟨behind, skipped⟩ := ih (fun other inside => blank other (by simp [inside])) (position.after c)
    refine ⟨behind, ?_⟩
    rw [← skipped]
    simp only [Cursor.skipBlank, List.cons_append, Cursor.skip, blank c (by simp), if_true]

theorem escapeChar_ne_nil (c : Char) : escapeChar c ≠ [] := by
  simp only [escapeChar]
  repeat' split
  all_goals simp

theorem hexUnit_escape {n : Nat} (small : n < 32) (rest : List Char) (position : Position) :
    Reaches (hexUnit ⟨'0' :: '0' :: Nat.digitChar (n / 16) :: Nat.digitChar (n % 16) :: rest, position⟩)
      n rest := by
  have digits : ∀ n < 32, hexDigit? (Nat.digitChar (n / 16)) = some (n / 16) ∧
      hexDigit? (Nat.digitChar (n % 16)) = some (n % 16) ∧
      (Nat.digitChar (n / 16)).utf8Size = 1 ∧ (Nat.digitChar (n % 16)).utf8Size = 1 := by decide
  obtain ⟨high, low, highSize, lowSize⟩ := digits n small
  have zero : hexDigit? '0' = some 0 := by decide
  have zeroSize : Char.utf8Size '0' = 1 := by decide
  have value : ((0 * 16 + 0) * 16 + n / 16) * 16 + n % 16 = n := by omega
  refine ⟨(((position.after '0').after '0').after (Nat.digitChar (n / 16))).after (Nat.digitChar (n % 16)), ?_⟩
  simp only [hexUnit, List.take_succ_cons, List.take_zero, List.foldl_cons, List.foldl_nil, zeroSize,
    highSize, lowSize, high, low, zero, value]
  rfl

theorem numericEscape_control {n : Nat} (small : n < 32) (rest : List Char) (position : Position) :
    Reaches (numericEscape
      ⟨'0' :: '0' :: Nat.digitChar (n / 16) :: Nat.digitChar (n % 16) :: rest, position⟩)
      (Char.ofNat n) rest := by
  obtain ⟨behind, read⟩ := hexUnit_escape small rest position
  refine ⟨behind, ?_⟩
  have noLow : ¬ (0xDC00 ≤ n ∧ n ≤ 0xDFFF) := by omega
  have noHigh : ¬ (0xD800 ≤ n ∧ n ≤ 0xDBFF) := by omega
  simp only [numericEscape, read, bind, Except.bind, if_neg noLow, if_neg noHigh]
  rfl

theorem stringFrom_escapeChar (c : Char) (steps : Nat) (reversed rest : List Char)
    (position : Position) :
    ∃ behind, stringFrom (steps + 1) reversed ⟨escapeChar c ++ rest, position⟩ =
      stringFrom steps (c :: reversed) ⟨rest, behind⟩ := by
  rw [escapeChar]
  split
  · subst c
    exact ⟨_, rfl⟩
  split
  · subst c
    exact ⟨_, rfl⟩
  split
  · subst c
    exact ⟨_, rfl⟩
  split
  · subst c
    exact ⟨_, rfl⟩
  split
  · subst c
    exact ⟨_, rfl⟩
  split
  · subst c
    exact ⟨_, rfl⟩
  split
  · subst c
    exact ⟨_, rfl⟩
  split
  · rename_i small
    obtain ⟨behind, read⟩ := numericEscape_control small rest
      (((position.after '\\').after 'u'))
    refine ⟨behind, ?_⟩
    simp only [List.cons_append, List.nil_append, stringFrom, escape, Cursor.next, read,
      Char.ofNat_toNat]
  · rename_i quote backslash _ _ _ _ _ large
    refine ⟨position.after c, ?_⟩
    rw [List.singleton_append, stringFrom]
    split
    · rename_i same
      cases same
    · rename_i same
      exact absurd (List.cons.inj same).1 quote
    · rename_i same
      exact absurd (List.cons.inj same).1 backslash
    · rename_i same
      cases same
      rw [if_neg large, Cursor.next]

theorem stringFrom_escaped (text : List Char) (steps : Nat) (enough : text.length < steps)
    (reversed rest : List Char) (position : Position) :
    Reaches (stringFrom steps reversed ⟨text.flatMap escapeChar ++ '\"' :: rest, position⟩)
      (String.ofList (reversed.reverse ++ text)) rest := by
  induction text generalizing steps reversed position with
  | nil =>
    obtain ⟨steps, rfl⟩ : ∃ more, steps = more + 1 := ⟨steps - 1, by simp at enough; omega⟩
    refine ⟨position.after '\"', ?_⟩
    simp only [List.flatMap_nil, List.nil_append, stringFrom, List.append_nil, Cursor.next]
  | cons c text ih =>
    rw [List.length_cons] at enough
    obtain ⟨steps, rfl⟩ : ∃ more, steps = more + 1 := ⟨steps - 1, by omega⟩
    obtain ⟨behind, first⟩ := stringFrom_escapeChar c steps reversed
      (text.flatMap escapeChar ++ '\"' :: rest) position
    rw [List.flatMap_cons, List.append_assoc, first]
    simpa only [List.reverse_cons, List.append_assoc, List.singleton_append] using
      ih steps (by omega) (c :: reversed) behind

theorem length_le_escaped (text : List Char) : text.length ≤ (text.flatMap escapeChar).length := by
  induction text with
  | nil => simp
  | cons c text ih =>
    have := List.length_pos_iff.mpr (escapeChar_ne_nil c)
    rw [List.flatMap_cons, List.length_append, List.length_cons]
    omega

theorem readString_quoted (text : String) (rest : List Char) (position : Position) :
    Reaches (readString ⟨text.toList.flatMap escapeChar ++ '\"' :: rest, position⟩) text rest := by
  have enough : text.toList.length <
      (text.toList.flatMap escapeChar ++ '\"' :: rest).length + 1 := by
    have := length_le_escaped text.toList
    rw [List.length_append]
    omega
  simpa only [readString, List.reverse_nil, List.nil_append, String.ofList_toList] using
    stringFrom_escaped text.toList _ enough [] rest position

/-- The end of a number: nothing that could continue it. -/
def EndsNumber (rest : List Char) : Prop :=
  ∀ c, rest.head? = some c → isDigit c = false ∧ c ≠ '.' ∧ c ≠ 'e' ∧ c ≠ 'E'

theorem isDigit_of_mem_toDigits {n : Nat} {c : Char} (inside : c ∈ Nat.toDigits 10 n) :
    isDigit c = true := by
  have digit := Nat.isDigit_of_mem_toDigits (by decide) (by decide) inside
  simpa only [isDigit, Char.isDigit, ge_iff_le, Bool.and_eq_true, decide_eq_true_eq, Char.le_def]
    using digit

theorem span_append {run : List Char} (inside : ∀ c ∈ run, isDigit c) {rest : List Char}
    (ends : EndsNumber rest) (position : Position) :
    ∃ behind, Cursor.span isDigit (run ++ rest) position = (run, ⟨rest, behind⟩) := by
  induction run generalizing position with
  | nil =>
    cases rest with
    | nil => exact ⟨position, rfl⟩
    | cons c rest =>
      have noDigit := (ends c rfl).1
      exact ⟨position, by simp only [List.nil_append, Cursor.span, noDigit, Bool.false_eq_true, if_false]⟩
  | cons c run ih =>
    obtain ⟨behind, spanned⟩ := ih (fun other there => inside other (by simp [there])) (position.after c)
    exact ⟨behind, by
      simp only [List.cons_append, Cursor.span, inside c (by simp), if_true, spanned]⟩

theorem le_ofDigitChars (run : List Char) (soFar : Nat) : soFar ≤ Nat.ofDigitChars 10 run soFar := by
  induction run generalizing soFar with
  | nil => exact Nat.le_of_eq Nat.ofDigitChars_nil.symm
  | cons c run ih =>
    rw [Nat.ofDigitChars_cons]
    have := ih (10 * soFar + (c.toNat - '0'.toNat))
    omega

theorem appendDigits_eq (limit : Nat) (run : List Char) (soFar : Nat)
    (bound : Nat.ofDigitChars 10 run soFar ≤ limit) :
    appendDigits limit soFar (run.map fun c => c.toNat - '0'.toNat) =
      (Nat.ofDigitChars 10 run soFar, run.length) := by
  induction run generalizing soFar with
  | nil => rfl
  | cons c run ih =>
    rw [Nat.ofDigitChars_cons] at bound ⊢
    have fits := Nat.le_trans (le_ofDigitChars run _) bound
    rw [Nat.mul_comm 10] at bound fits ⊢
    simp only [List.map_cons, appendDigits, if_pos fits, ih _ bound, List.length_cons]

/-- No number but zero begins with the digit zero. -/
theorem head_toDigits {n : Nat} (positive : 0 < n) :
    ∃ c run, Nat.toDigits 10 n = c :: run ∧ c ≠ '0' := by
  induction n using Nat.strongRecOn with
  | ind n ih =>
    by_cases small : n < 10
    · have digit : ∀ n < 10, 0 < n → Nat.digitChar n ≠ '0' := by decide
      exact ⟨_, _, Nat.toDigits_of_lt_base small, digit n small positive⟩
    · obtain ⟨c, run, digits, nonzero⟩ := ih (n / 10) (by omega) (by omega)
      exact ⟨c, run ++ [Nat.digitChar (n % 10)], by
        rw [Nat.toDigits_of_base_le (by decide) (by omega), digits, List.cons_append], nonzero⟩

theorem wholePart_of_ends {rest : List Char} (ends : EndsNumber rest) (value : Nat)
    (position : Position) :
    wholePart ⟨false, value, 0⟩ ⟨rest, position⟩ = .ok (.natural value, ⟨rest, position⟩) := by
  cases rest with
  | nil => rfl
  | cons c rest =>
    obtain ⟨-, point, lower, upper⟩ := ends c rfl
    rw [wholePart]
    split
    · rename_i same
      exact absurd (List.cons.inj same).1 point
    · rename_i same
      exact absurd (List.cons.inj same).1 lower
    · rename_i same
      exact absurd (List.cons.inj same).1 upper
    · rfl

theorem readNumber_toDigits {n : Nat} (bound : n < UInt64.size) {rest : List Char}
    (ends : EndsNumber rest) (position : Position) :
    Reaches (readNumber false ⟨Nat.toDigits 10 n ++ rest, position⟩) (.natural n) rest := by
  rcases Nat.eq_zero_or_pos n with rfl | positive
  · refine ⟨position.after '0', ?_⟩
    have whole := wholePart_of_ends ends 0 (position.after '0')
    cases rest with
    | nil => exact whole
    | cons c rest =>
      have noDigit := (ends c rfl).1
      simpa only [Nat.toDigits_zero, List.singleton_append, readNumber, Cursor.next, noDigit,
        Bool.false_eq_true, if_false] using whole
  · obtain ⟨c, run, digits, nonzero⟩ := head_toDigits positive
    have inside : ∀ c ∈ Nat.toDigits 10 n, isDigit c := fun c => isDigit_of_mem_toDigits
    obtain ⟨behind, spanned⟩ := span_append inside ends position
    have value := appendDigits_eq significandLimit (Nat.toDigits 10 n) 0
      (by rw [Nat.ofDigitChars_ten_toDigits]; exact Nat.le_sub_one_of_lt bound)
    rw [Nat.ofDigitChars_ten_toDigits] at value
    have digit : isDigit c = true := inside c (by simp [digits])
    refine ⟨behind, ?_⟩
    rw [digits] at spanned value ⊢
    rw [List.cons_append] at spanned ⊢
    rw [readNumber]
    simp only [digit, if_true, Json.digits, spanned, value, List.length_map, Int.sub_self]
    exact wholePart_of_ends ends n behind

end ComponentDocs.Json
