import ComponentDocs.Proofs.Json.Nesting
import ComponentDocs.Proofs.Json.Tokens

/-! Printed values are read back, in every layout. The values are those of documents: their
numbers are natural, their objects have distinct keys, and they are not nested too deeply. -/
namespace ComponentDocs.Json

/-- A value that is its own normal form, nested in at most so many lists and objects. -/
def Plain : Nat → Json → Prop
  | _, .null | _, .bool _ | _, .string _ => True
  | _, .number (.natural value) => value < UInt64.size
  | _, .number _ => False
  | levels + 1, .array items => ∀ item ∈ items, Plain levels item
  | levels + 1, .object members =>
    (members.map Prod.fst).Nodup ∧ ∀ member ∈ members, Plain levels member.2
  | 0, .array _ | 0, .object _ => False

/-- The end of a value: of the text, of a line, or of the item or member. -/
def EndsValue (rest : List Char) : Prop :=
  ∀ c, rest.head? = some c → c ∈ [',', '\n', ']', '}']

theorem EndsValue.endsNumber {rest : List Char} (ends : EndsValue rest) : EndsNumber rest := by
  have apart : ∀ c ∈ [',', '\n', ']', '}'], isDigit c = false ∧ c ≠ '.' ∧ c ≠ 'e' ∧ c ≠ 'E' := by
    simp only [List.forall_mem_cons, List.not_mem_nil, false_implies, implies_true, and_true]
    decide
  exact fun c first => apart c (ends c first)

theorem endsValue_cons {c : Char} (ending : c ∈ [',', '\n', ']', '}']) (rest : List Char) :
    EndsValue (c :: rest) := by
  intro other first
  cases first
  exact ending

theorem endsValue_line (layout : Layout) (level : Nat) {c : Char}
    (ending : c ∈ [',', '\n', ']', '}']) (rest : List Char) :
    EndsValue (layout.line level ++ c :: rest) := by
  cases layout with
  | none => exact endsValue_cons ending rest
  | some width => exact endsValue_cons (by decide) _

theorem line_blank (layout : Layout) (level : Nat) : ∀ c ∈ layout.line level, isBlank c := by
  cases layout with
  | none => simp [Layout.line]
  | some width =>
    intro c inside
    simp only [Layout.line, List.mem_cons, List.mem_replicate] at inside
    rcases inside with rfl | ⟨-, rfl⟩ <;> decide

theorem skipBlank_line (layout : Layout) (level : Nat) {c : Char} (solid : isBlank c = false)
    (rest : List Char) (position : Position) :
    ∃ behind, Cursor.skipBlank ⟨layout.line level ++ c :: rest, position⟩ = ⟨c :: rest, behind⟩ := by
  obtain ⟨behind, skipped⟩ := skipBlank_append (line_blank layout level) (c :: rest) position
  exact ⟨behind, skipped.trans (skipBlank_of_not solid rest behind)⟩

def Begins (c : Char) : Prop := isBlank c = false ∧ c ≠ ']' ∧ c ≠ '}'

instance (c : Char) : Decidable (Begins c) := inferInstanceAs (Decidable (_ ∧ _ ∧ _))

theorem ne_of_isDigit {c : Char} (digit : isDigit c) (other : Char) (noDigit : isDigit other = false) :
    c ≠ other := by
  rintro rfl
  rw [noDigit] at digit
  cases digit

theorem begins_of_isDigit {c : Char} (digit : isDigit c) : Begins c := by
  simp only [Begins, isBlank, Bool.or_eq_false_iff, decide_eq_false_iff_not]
  exact ⟨⟨⟨⟨ne_of_isDigit digit _ rfl, ne_of_isDigit digit _ rfl⟩, ne_of_isDigit digit _ rfl⟩,
    ne_of_isDigit digit _ rfl⟩, ne_of_isDigit digit _ rfl, ne_of_isDigit digit _ rfl⟩

theorem print_begins {levels : Nat} {value : Json} (plain : value.Plain levels) (layout : Layout)
    (level : Nat) : ∃ c more, value.print layout level = c :: more ∧ Begins c := by
  cases value with
  | null => exact ⟨'n', _, rfl, by decide⟩
  | bool flag => cases flag <;> exact ⟨_, _, rfl, by decide⟩
  | string text => exact ⟨'\"', _, rfl, by decide⟩
  | array items => cases items <;> exact ⟨'[', _, rfl, by decide⟩
  | object members => cases members <;> exact ⟨'{', _, rfl, by decide⟩
  | number number =>
    cases number with
    | negative | float => simp only [Plain] at plain
    | natural n =>
      obtain ⟨c, run, digits⟩ := List.exists_cons_of_ne_nil (Nat.toDigits_ne_nil (b := 10) (n := n))
      have inside : c ∈ Nat.toDigits 10 n := by rw [digits]; exact List.mem_cons_self
      exact ⟨c, run, digits, begins_of_isDigit (isDigit_of_mem_toDigits inside)⟩

theorem readLiteral_append (word rest : List Char) (position : Position) :
    ∃ behind, readLiteral word ⟨word ++ rest, position⟩ = .ok ⟨rest, behind⟩ := by
  induction word generalizing position with
  | nil => exact ⟨position, rfl⟩
  | cons c word ih =>
    obtain ⟨behind, read⟩ := ih (position.after c)
    exact ⟨behind, by simpa only [readLiteral, List.cons_append, Cursor.next, if_true] using read⟩

theorem literalValue_append (c : Char) (word : List Char) (value : Json) (rest : List Char)
    (position : Position) :
    Reaches (literalValue word value ⟨c :: word ++ rest, position⟩) value rest := by
  obtain ⟨behind, read⟩ := readLiteral_append word rest (position.after c)
  exact ⟨behind, by simp only [literalValue, Cursor.next, List.cons_append, read]⟩

section Lists

variable (layout : Layout)

/-- What stands behind an item: a comma and the items that follow, if there are any. -/
def behindItem (level : Nat) : List Json → List Char
  | [] => []
  | item :: items => ',' :: printItems layout level (item :: items)

theorem printItems_cons (level : Nat) (item : Json) (items : List Json) :
    printItems layout level (item :: items) =
      layout.line level ++ item.print layout level ++ behindItem layout level items := by
  cases items <;> simp only [printItems, behindItem, List.append_nil]

theorem behindItem_cons (level : Nat) (item : Json) (items : List Json) :
    behindItem layout level (item :: items) =
      ',' :: (layout.line level ++ (item.print layout level ++ behindItem layout level items)) := by
  rw [behindItem, printItems_cons, List.append_assoc]

theorem length_le_behindItem (level : Nat) (items : List Json) :
    items.length ≤ (behindItem layout level items).length := by
  induction items with
  | nil => exact Nat.le_refl 0
  | cons item items ih =>
    rw [behindItem_cons]
    simp only [List.length_cons, List.length_append]
    omega

theorem endsValue_behindItem (level : Nat) (items : List Json) (outer : Nat) (rest : List Char) :
    EndsValue (behindItem layout level items ++ (layout.line outer ++ ']' :: rest)) := by
  cases items with
  | nil => exact endsValue_line layout outer (by decide) rest
  | cons => exact endsValue_cons (by decide) _

theorem nextItem_first (level : Nat) {c : Char} (begins : Begins c) (rest : List Char)
    (position : Position) :
    Reaches (nextItem true ⟨layout.line level ++ c :: rest, position⟩) true (c :: rest) := by
  obtain ⟨behind, skipped⟩ := skipBlank_line layout level begins.1 rest position
  exact ⟨behind, by simp [nextItem, skipped, begins.2.1]⟩

theorem nextItem_comma (level : Nat) {c : Char} (begins : Begins c) (rest : List Char)
    (position : Position) :
    Reaches (nextItem false ⟨',' :: (layout.line level ++ c :: rest), position⟩) true (c :: rest) := by
  obtain ⟨behind, skipped⟩ := skipBlank_line layout level begins.1 rest (position.after ',')
  have comma := skipBlank_of_not (c := ',') (by decide) (layout.line level ++ c :: rest) position
  exact ⟨behind, by simp [nextItem, comma, Cursor.next, skipped, begins.2.1]⟩

theorem nextItem_end (first : Bool) (level : Nat) (rest : List Char) (position : Position) :
    Reaches (nextItem first ⟨layout.line level ++ ']' :: rest, position⟩) false (']' :: rest) := by
  obtain ⟨behind, skipped⟩ := skipBlank_line layout level (c := ']') (by decide) rest position
  exact ⟨behind, by simp only [nextItem, skipped]⟩

variable {layout}

/-- Reading on behind an item takes all items that follow. -/
theorem foldItems_behind {levels level : Nat} {add : List Json → Cursor → Except Fault (List Json × Cursor)}
    (reads : ∀ {item}, Plain levels item → ∀ soFar rest position, EndsValue rest →
      Reaches (add soFar ⟨item.print layout level ++ rest, position⟩) (item :: soFar) rest)
    (outer : Nat) (items : List Json) (plain : ∀ item ∈ items, Plain levels item) (steps : Nat)
    (enough : items.length < steps) (soFar : List Json) (rest : List Char) (position : Position) :
    Reaches (foldItems id add steps false soFar
      ⟨behindItem layout level items ++ (layout.line outer ++ ']' :: rest), position⟩)
      (items.reverse ++ soFar) (']' :: rest) := by
  induction items generalizing steps soFar position with
  | nil =>
    obtain ⟨steps, rfl⟩ : ∃ more, steps = more + 1 := ⟨steps - 1, by simp at enough; omega⟩
    obtain ⟨behind, ended⟩ := nextItem_end layout false outer rest position
    exact ⟨behind, by simp only [behindItem, List.nil_append, foldItems, ended, List.reverse_nil]⟩
  | cons item items ih =>
    rw [List.length_cons] at enough
    obtain ⟨steps, rfl⟩ : ∃ more, steps = more + 1 := ⟨steps - 1, by omega⟩
    have first := plain item (by simp)
    obtain ⟨c, more, printed, begins⟩ := print_begins first layout level
    obtain ⟨before, comma⟩ := nextItem_comma layout level begins
      (more ++ (behindItem layout level items ++ (layout.line outer ++ ']' :: rest))) position
    obtain ⟨behind, read⟩ := reads first soFar _ before (endsValue_behindItem layout level items outer rest)
    rw [printed, List.cons_append] at read
    have others := ih (fun other inside => plain other (by simp [inside])) steps (by omega)
      (item :: soFar) behind
    rw [behindItem_cons, printed, foldItems]
    simp only [List.cons_append, List.append_assoc, comma, read, List.reverse_cons, List.nil_append]
      at others ⊢
    exact others

theorem listOf_print {levels level : Nat} {add : List Json → Cursor → Except Fault (List Json × Cursor)}
    (reads : ∀ {item}, Plain levels item → ∀ soFar rest position, EndsValue rest →
      Reaches (add soFar ⟨item.print layout level ++ rest, position⟩) (item :: soFar) rest)
    (outer : Nat) {item : Json} {items : List Json}
    (plain : ∀ other ∈ item :: items, Plain levels other) (rest : List Char) (position : Position) :
    Reaches (listOf id add []
      ⟨printItems layout level (item :: items) ++ (layout.line outer ++ ']' :: rest), position⟩)
      (item :: items).reverse rest := by
  have first := plain item (by simp)
  obtain ⟨c, more, printed, begins⟩ := print_begins first layout level
  obtain ⟨before, begun⟩ := nextItem_first layout level begins
    (more ++ (behindItem layout level items ++ (layout.line outer ++ ']' :: rest))) position
  obtain ⟨behind, read⟩ := reads first [] _ before (endsValue_behindItem layout level items outer rest)
  rw [printed, List.cons_append] at read
  have enough : items.length <
      (printItems layout level (item :: items) ++ (layout.line outer ++ ']' :: rest)).length := by
    have := length_le_behindItem layout level items
    rw [printItems_cons]
    simp only [List.length_append, List.length_cons]
    omega
  obtain ⟨last, others⟩ := foldItems_behind reads outer items
    (fun other inside => plain other (by simp [inside])) _ enough [item] rest behind
  have folded : foldItems id add
      ((printItems layout level (item :: items) ++ (layout.line outer ++ ']' :: rest)).length + 1)
      true []
      ⟨printItems layout level (item :: items) ++ (layout.line outer ++ ']' :: rest), position⟩ =
      .ok (items.reverse ++ [item], ⟨']' :: rest, last⟩) := by
    rw [foldItems, ← others]
    simp only [printItems_cons, printed, List.append_assoc, List.cons_append, begun, read]
  refine ⟨last.after ']', ?_⟩
  simp only [listOf, folded, endList, skipBlank_of_not (c := ']') (by decide), Cursor.next,
    List.reverse_cons]

end Lists

section Objects

variable (layout : Layout)

/-- What stands behind a member: a comma and the members that follow, if there are any. -/
def behindMember (level : Nat) : Members → List Char
  | [] => []
  | member :: members => ',' :: printMembers layout level (member :: members)

theorem printMembers_cons (level : Nat) (key : String) (value : Json)
    (members : Members) :
    printMembers layout level ((key, value) :: members) =
      layout.line level ++ (quote key ++ (layout.colon ++ (value.print layout level ++
        behindMember layout level members))) := by
  cases members <;> simp only [printMembers, behindMember, List.append_nil, List.append_assoc]

theorem behindMember_cons (level : Nat) (key : String) (value : Json)
    (members : Members) :
    behindMember layout level ((key, value) :: members) =
      ',' :: (layout.line level ++ (quote key ++ (layout.colon ++ (value.print layout level ++
        behindMember layout level members)))) := by
  rw [behindMember, printMembers_cons]

theorem length_le_behindMember (level : Nat) (members : Members) :
    members.length ≤ (behindMember layout level members).length := by
  induction members with
  | nil => exact Nat.le_refl 0
  | cons member members ih =>
    rw [behindMember_cons]
    simp only [List.length_cons, List.length_append]
    omega

theorem endsValue_behindMember (level : Nat) (members : Members) (outer : Nat) (rest : List Char) :
    EndsValue (behindMember layout level members ++ (layout.line outer ++ '}' :: rest)) := by
  cases members with
  | nil => exact endsValue_line layout outer (by decide) rest
  | cons => exact endsValue_cons (by decide) _

theorem readKey_quote (key : String) (rest : List Char) (position : Position) :
    Reaches (readKey ⟨quote key ++ rest, position⟩) (some key) rest := by
  obtain ⟨behind, read⟩ := readString_quoted key rest (position.after '\"')
  refine ⟨behind, ?_⟩
  simp only [readKey, quote, List.cons_append, List.append_assoc, List.nil_append, Cursor.next, read]

theorem nextKey_first (level : Nat) (key : String) (rest : List Char) (position : Position) :
    Reaches (nextKey true ⟨layout.line level ++ (quote key ++ rest), position⟩) (some key) rest := by
  obtain ⟨before, skipped⟩ := skipBlank_line layout level (c := '\"') (by decide)
    (key.toList.flatMap escapeChar ++ ['\"'] ++ rest) position
  obtain ⟨behind, read⟩ := readKey_quote key rest before
  refine ⟨behind, ?_⟩
  rw [← read]
  simp only [nextKey, quote, List.cons_append, skipped]
  rfl

theorem nextKey_comma (level : Nat) (key : String) (rest : List Char) (position : Position) :
    Reaches (nextKey false ⟨',' :: (layout.line level ++ (quote key ++ rest)), position⟩)
      (some key) rest := by
  obtain ⟨before, skipped⟩ := skipBlank_line layout level (c := '\"') (by decide)
    (key.toList.flatMap escapeChar ++ ['\"'] ++ rest) (position.after ',')
  obtain ⟨behind, read⟩ := readKey_quote key rest before
  refine ⟨behind, ?_⟩
  rw [← read]
  simp only [nextKey, quote, List.cons_append, skipBlank_of_not (c := ',') (by decide), Cursor.next,
    skipped]
  rfl

theorem nextKey_end (first : Bool) (level : Nat) (rest : List Char) (position : Position) :
    Reaches (nextKey first ⟨layout.line level ++ '}' :: rest, position⟩) none ('}' :: rest) := by
  obtain ⟨behind, skipped⟩ := skipBlank_line layout level (c := '}') (by decide) rest position
  exact ⟨behind, by simp only [nextKey, skipped]⟩

theorem readColon_colon {c : Char} (solid : isBlank c = false)
    (rest : List Char) (position : Position) :
    ∃ behind, readColon ⟨layout.colon ++ c :: rest, position⟩ = .ok behind ∧
      ∃ place, behind.skipBlank = ⟨c :: rest, place⟩ := by
  have colon (more : List Char) :
      readColon ⟨':' :: more, position⟩ = .ok ⟨more, position.after ':'⟩ := by
    simp only [readColon, skipBlank_of_not (c := ':') (by decide), Cursor.next]
  cases layout with
  | none => exact ⟨_, colon _, _, skipBlank_of_not solid rest _⟩
  | some width =>
    refine ⟨_, colon _, ?_⟩
    obtain ⟨place, skipped⟩ := skipBlank_append (show ∀ c ∈ [' '], isBlank c by simp [isBlank]) (c :: rest)
      (position.after ':')
    exact ⟨place, skipped.trans (skipBlank_of_not solid rest place)⟩

variable {layout}

/-- Reading on behind a member takes all members that follow. -/
theorem foldMembers_behind {levels level : Nat}
    {add : String → Members → Cursor → Except Fault (Members × Cursor)}
    (reads : ∀ {value}, Plain levels value → ∀ key soFar rest position, EndsValue rest →
      Reaches (add key soFar ⟨layout.colon ++ (value.print layout level ++ rest), position⟩)
        ((key, value) :: soFar) rest)
    (outer : Nat) (members : Members) (plain : ∀ member ∈ members, Plain levels member.2)
    (steps : Nat) (enough : members.length < steps) (soFar : Members) (rest : List Char)
    (position : Position) :
    Reaches (foldMembers id add steps false soFar
      ⟨behindMember layout level members ++ (layout.line outer ++ '}' :: rest), position⟩)
      (members.reverse ++ soFar) ('}' :: rest) := by
  induction members generalizing steps soFar position with
  | nil =>
    obtain ⟨steps, rfl⟩ : ∃ more, steps = more + 1 := ⟨steps - 1, by simp at enough; omega⟩
    obtain ⟨behind, ended⟩ := nextKey_end layout false outer rest position
    exact ⟨behind, by simp only [behindMember, List.nil_append, foldMembers, ended, List.reverse_nil]⟩
  | cons member members ih =>
    obtain ⟨key, value⟩ := member
    rw [List.length_cons] at enough
    obtain ⟨steps, rfl⟩ : ∃ more, steps = more + 1 := ⟨steps - 1, by omega⟩
    obtain ⟨before, comma⟩ := nextKey_comma layout level key
      (layout.colon ++ (value.print layout level ++
        (behindMember layout level members ++ (layout.line outer ++ '}' :: rest)))) position
    obtain ⟨behind, read⟩ := reads (plain (key, value) (by simp)) key soFar _ before
      (endsValue_behindMember layout level members outer rest)
    have others := ih (fun other inside => plain other (by simp [inside])) steps (by omega)
      ((key, value) :: soFar) behind
    rw [behindMember_cons, foldMembers]
    simp only [List.cons_append, List.append_assoc, comma, read, List.reverse_cons, List.nil_append]
      at others ⊢
    exact others

theorem membersOf_print {levels level : Nat}
    {add : String → Members → Cursor → Except Fault (Members × Cursor)}
    (reads : ∀ {value}, Plain levels value → ∀ key soFar rest position, EndsValue rest →
      Reaches (add key soFar ⟨layout.colon ++ (value.print layout level ++ rest), position⟩)
        ((key, value) :: soFar) rest)
    (outer : Nat) {member : String × Json} {members : Members}
    (plain : ∀ other ∈ member :: members, Plain levels other.2) (rest : List Char)
    (position : Position) :
    Reaches (membersOf id add []
      ⟨printMembers layout level (member :: members) ++ (layout.line outer ++ '}' :: rest), position⟩)
      (member :: members).reverse ('}' :: rest) := by
  obtain ⟨key, value⟩ := member
  obtain ⟨before, begun⟩ := nextKey_first layout level key
    (layout.colon ++ (value.print layout level ++
      (behindMember layout level members ++ (layout.line outer ++ '}' :: rest)))) position
  obtain ⟨behind, read⟩ := reads (plain (key, value) (by simp)) key [] _ before
    (endsValue_behindMember layout level members outer rest)
  have enough : members.length <
      (printMembers layout level ((key, value) :: members) ++
        (layout.line outer ++ '}' :: rest)).length := by
    have := length_le_behindMember layout level members
    rw [printMembers_cons]
    simp only [List.length_append, List.length_cons]
    omega
  obtain ⟨last, others⟩ := foldMembers_behind reads outer members
    (fun other inside => plain other (by simp [inside])) _ enough [(key, value)] rest behind
  refine ⟨last, ?_⟩
  rw [membersOf, foldMembers, List.reverse_cons, ← others]
  simp only [printMembers_cons, List.append_assoc, begun, read]

end Objects

theorem readValue_of_skipBlank {keep : Members → Members} {levels : Nat} {first second : Cursor}
    (same : first.skipBlank = second.skipBlank) :
    readValue keep levels first = readValue keep levels second := by
  cases levels <;> simp only [readValue, same]

theorem scalar?_print {value : Json} (plain : value.Plain 0) (layout : Layout) (level : Nat)
    {rest : List Char} (ends : EndsValue rest) (position : Position) :
    ∃ outcome, scalar? ⟨value.print layout level ++ rest, position⟩ = some outcome ∧
      Reaches outcome value rest := by
  cases value with
  | null => exact ⟨_, rfl, literalValue_append 'n' _ _ rest position⟩
  | bool flag =>
    cases flag with
    | true => exact ⟨_, rfl, literalValue_append 't' _ _ rest position⟩
    | false => exact ⟨_, rfl, literalValue_append 'f' _ _ rest position⟩
  | string text =>
    obtain ⟨behind, read⟩ := readString_quoted text rest (position.after '\"')
    refine ⟨_, rfl, behind, ?_⟩
    simp only [print, quote, List.cons_append, List.append_assoc, List.nil_append, Cursor.next, read]
  | array | object => simp only [Plain] at plain
  | number number =>
    cases number with
    | negative | float => simp only [Plain] at plain
    | natural n =>
      simp only [Plain] at plain
      obtain ⟨c, run, digits⟩ := List.exists_cons_of_ne_nil (Nat.toDigits_ne_nil (b := 10) (n := n))
      have digit : isDigit c := isDigit_of_mem_toDigits (n := n) (by rw [digits]; exact List.mem_cons_self)
      obtain ⟨behind, read⟩ := readNumber_toDigits plain ends.endsNumber position
      refine ⟨numberValue false ⟨Nat.toDigits 10 n ++ rest, position⟩, ?_, behind, ?_⟩
      · simp only [print, Number.print, digits, List.cons_append]
        simp [scalar?, digit, ne_of_isDigit digit 'n' rfl,
          ne_of_isDigit digit 't' rfl, ne_of_isDigit digit 'f' rfl,
          ne_of_isDigit digit '-' rfl, ne_of_isDigit digit '\"' rfl]
      · simp only [numberValue, read]

theorem readValue_scalar {value : Json} (plain : value.Plain 0) (keep : Members → Members)
    (levels : Nat) (layout : Layout) (level : Nat) {rest : List Char} (ends : EndsValue rest)
    (position : Position) :
    Reaches (readValue keep levels ⟨value.print layout level ++ rest, position⟩) value rest := by
  obtain ⟨outcome, scalar, behind, read⟩ := scalar?_print plain layout level ends position
  obtain ⟨c, more, printed, begins⟩ := print_begins plain layout level
  rw [printed, List.cons_append] at scalar ⊢
  refine ⟨behind, ?_⟩
  cases levels <;> simp only [readValue, skipBlank_of_not begins.1, scalar, read]

theorem plain_number {levels : Nat} {number : Number} (plain : Plain levels (.number number))
    (other : Nat) : Plain other (.number number) := by
  cases number with
  | natural => simpa only [Plain] using plain
  | negative | float => simp only [Plain] at plain

theorem readValue_list (levels : Nat) (rest : List Char) (position : Position) :
    readValue merge (levels + 1) ⟨'[' :: rest, position⟩ =
      match listOf id (addItem merge levels) [] ⟨rest, position.after '['⟩ with
      | .ok (items, cursor) => .ok (.array items.reverse, cursor)
      | .error fault => .error fault := by
  rw [readValue, skipBlank_of_not (by decide)]
  rfl

theorem readValue_object (levels : Nat) (rest : List Char) (position : Position) :
    readValue merge (levels + 1) ⟨'{' :: rest, position⟩ =
      match membersOf id (addMember merge levels) [] ⟨rest, position.after '{'⟩ with
      | .error fault => .error fault
      | .ok (members, cursor) =>
        match endObject cursor with
        | .ok cursor => .ok (.object (merge members.reverse), cursor)
        | .error fault => .error fault := by
  rw [readValue, skipBlank_of_not (by decide)]
  rfl

/-- A printed value is read back, up to where it ends. -/
theorem readValue_print {levels : Nat} {value : Json} (plain : value.Plain levels) (layout : Layout)
    (level : Nat) {rest : List Char} (ends : EndsValue rest) (position : Position) :
    Reaches (readValue merge levels ⟨value.print layout level ++ rest, position⟩) value rest := by
  induction levels generalizing value level rest position with
  | zero => exact readValue_scalar plain merge 0 layout level ends position
  | succ levels ih =>
    cases value with
    | null | bool | string =>
      exact readValue_scalar (by simp only [Plain]) merge _ layout level ends position
    | number => exact readValue_scalar (plain_number plain 0) merge _ layout level ends position
    | array items =>
      cases items with
      | nil =>
        refine ⟨(position.after '[').after ']', ?_⟩
        rw [print, List.cons_append, readValue_list]
        rfl
      | cons item items =>
        have reads {item : Json} (plain : item.Plain levels) (soFar : List Json) (rest : List Char)
            (position : Position) (ends : EndsValue rest) :
            Reaches (addItem merge levels soFar ⟨item.print layout (level + 1) ++ rest, position⟩)
              (item :: soFar) rest := by
          obtain ⟨behind, read⟩ := ih plain (level + 1) ends position
          exact ⟨behind, by simp only [addItem, read]⟩
        simp only [Plain] at plain
        obtain ⟨behind, read⟩ := listOf_print reads level plain rest (position.after '[')
        refine ⟨behind, ?_⟩
        rw [print, List.cons_append, List.append_assoc, List.append_assoc, List.singleton_append,
          readValue_list, read]
        simp only [List.reverse_reverse]
    | object members =>
      simp only [Plain] at plain
      obtain ⟨distinct, plain⟩ := plain
      cases members with
      | nil =>
        refine ⟨(position.after '{').after '}', ?_⟩
        rw [print, List.cons_append, readValue_object]
        rfl
      | cons member members =>
        have reads {value : Json} (plain : value.Plain levels) (key : String) (soFar : Members)
            (rest : List Char) (position : Position) (ends : EndsValue rest) :
            Reaches (addMember merge levels key soFar
              ⟨layout.colon ++ (value.print layout (level + 1) ++ rest), position⟩)
              ((key, value) :: soFar) rest := by
          obtain ⟨c, more, printed, begins⟩ := print_begins plain layout (level + 1)
          obtain ⟨cursor, colon, place, skipped⟩ :=
            readColon_colon layout begins.1 (more ++ rest) position
          have same : cursor.skipBlank =
              Cursor.skipBlank ⟨value.print layout (level + 1) ++ rest, place⟩ := by
            rw [skipped, printed, List.cons_append, skipBlank_of_not begins.1]
          obtain ⟨behind, read⟩ := ih plain (level + 1) ends place
          refine ⟨behind, ?_⟩
          rw [← readValue_of_skipBlank same] at read
          rw [printed, List.cons_append]
          simp only [addMember, colon, read]
        obtain ⟨behind, read⟩ := membersOf_print reads level plain rest (position.after '{')
        refine ⟨behind.after '}', ?_⟩
        rw [print, List.cons_append, List.append_assoc, List.append_assoc, List.singleton_append,
          readValue_object, read]
        simp only [endObject, skipBlank_of_not (c := '}') (by decide), Cursor.next,
          List.reverse_reverse, merge_of_nodup distinct]

theorem parse_print {value : Json} (plain : value.Plain nestingLimit) (layout : Layout) :
    parse (String.ofList (value.print layout 0 ++ ['\n'])) = .ok value := by
  obtain ⟨behind, read⟩ := readValue_print plain layout 0 (endsValue_cons (c := '\n') (by decide) [])
    {}
  have finished : finish ⟨['\n'], behind⟩ = .ok () := rfl
  simp only [parse, Cursor.ofText, String.toList_ofList, read, bind, Except.bind, finished]
  rfl

end ComponentDocs.Json
