import ComponentDocs.Proofs.Json.Continuation
import ComponentDocs.Proofs.Json.Normal
import ComponentDocs.Proofs.Json.RoundTrip

/-! How deep a value is nested, and what that means for reading it: with enough levels a value is
read in the same way wherever it stands, and with fewer the text is refused as too deep. -/
namespace ComponentDocs.Json

mutual

/-- How many lists and objects are open at once where the value is nested most deeply, itself
included. -/
def depth : Json → Nat
  | .null | .bool _ | .number _ | .string _ => 0
  | .array items => depthOfItems items + 1
  | .object members => depthOfMembers members + 1

def depthOfItems : List Json → Nat
  | [] => 0
  | item :: items => max item.depth (depthOfItems items)

def depthOfMembers : List (String × Json) → Nat
  | [] => 0
  | (_, value) :: members => max value.depth (depthOfMembers members)

end

open Cursor (ExtendedBy)

/-- What a reader with so many levels makes of a text that is nested so deeply: it comes to the
same value and the same place, or finds the text too deep. -/
inductive Rereads {α : Type} (tail : List Char) (depth levels : Nat) (value : α) (behind : Cursor) :
    Except Fault (α × Cursor) → Prop
  | same {behind' : Cursor} (fits : depth ≤ levels) (place : behind.ExtendedBy tail behind') :
      Rereads tail depth levels value behind (.ok (value, behind'))
  | tooDeep (position : Position) (deep : levels < depth) :
      Rereads tail depth levels value behind (.error ⟨.tooDeep, position⟩)

variable {tail : List Char} {cursor longer behind last : Cursor} {levels levels' : Nat} {json : Json}

theorem depth_of_scalar (scalar : Scalar cursor json behind) : json.depth = 0 := by
  cases scalar <;> rfl

theorem rereads_scalar (ends : EndsNumber tail) (extended : cursor.ExtendedBy tail longer)
    (begun : scalar? cursor.skipBlank = some (.ok (json, behind))) :
    Rereads tail json.depth levels json behind (readValue id levels longer) := by
  have more : cursor.skipBlank.rest ≠ [] := by
    intro empty
    simp [scalar?, empty] at begun
  obtain ⟨behind', begun', place⟩ := scalar?_extended ends (extended.skipBlank more) begun
  rw [readValue_of_scalar begun', depth_of_scalar (scalar_of_ok begun)]
  exact .same (Nat.zero_le _) place

section Inside

-- The reader of inner values comes to the same.
variable (again : ∀ {cursor longer json behind}, cursor.ExtendedBy tail longer →
  readValue id levels cursor = .ok (json, behind) →
  Rereads tail json.depth levels' json behind (readValue id levels' longer))

include again

theorem rereads_items {steps steps' : Nat} {first : Bool} {items : List Json} (enough : steps ≤ steps')
    (inside : ItemsRead id levels steps first cursor items last) (extended : cursor.ExtendedBy tail longer)
    (soFar : List Json) :
    Rereads tail (depthOfItems items) levels' (items.reverse ++ soFar) last
      (foldItems id (addItem id levels') steps' first soFar longer) := by
  induction inside generalizing steps' longer soFar with
  | ended found =>
    obtain ⟨steps', rfl⟩ : ∃ more, steps' = more + 1 := ⟨steps' - 1, by omega⟩
    obtain ⟨last', found', place⟩ := nextItem_extended extended found
    simp only [foldItems, found']
    exact .same (Nat.zero_le _) place
  | @item steps first cursor next after last json items found read others ih =>
    obtain ⟨steps', rfl⟩ : ∃ more, steps' = more + 1 := ⟨steps' - 1, by omega⟩
    obtain ⟨next', found', place⟩ := nextItem_extended extended found
    have value := again place read
    simp only [foldItems, found', addItem]
    generalize readValue id levels' next' = outcome at value
    cases value with
    | tooDeep position deep => exact .tooDeep position (Nat.lt_of_lt_of_le deep (Nat.le_max_left _ _))
    | same fits place =>
      have rest := ih (Nat.le_of_succ_le_succ enough) place (json :: soFar)
      simp only [List.reverse_cons, List.append_assoc, List.singleton_append]
      generalize foldItems id (addItem id levels') steps' false (json :: soFar) _ = outcome at rest
      cases rest with
      | tooDeep position deep => exact .tooDeep position (Nat.lt_of_lt_of_le deep (Nat.le_max_right _ _))
      | same fits' place => exact .same (Nat.max_le.mpr ⟨fits, fits'⟩) place

theorem rereads_members {steps steps' : Nat} {first : Bool} {members : Members} (enough : steps ≤ steps')
    (inside : MembersRead id levels steps first cursor members last) (extended : cursor.ExtendedBy tail longer)
    (soFar : Members) :
    Rereads tail (depthOfMembers members) levels' (members.reverse ++ soFar) last
      (foldMembers id (addMember id levels') steps' first soFar longer) := by
  induction inside generalizing steps' longer soFar with
  | ended found =>
    obtain ⟨steps', rfl⟩ : ∃ more, steps' = more + 1 := ⟨steps' - 1, by omega⟩
    obtain ⟨last', found', place⟩ := nextKey_extended extended found
    simp only [foldMembers, found']
    exact .same (Nat.zero_le _) place
  | @member steps first cursor next start after last key json members found colon read others ih =>
    obtain ⟨steps', rfl⟩ : ∃ more, steps' = more + 1 := ⟨steps' - 1, by omega⟩
    obtain ⟨next', found', place⟩ := nextKey_extended extended found
    obtain ⟨start', colon', place⟩ := readColon_extended place colon
    have value := again place read
    simp only [foldMembers, found', addMember, colon']
    generalize readValue id levels' start' = outcome at value
    cases value with
    | tooDeep position deep => exact .tooDeep position (Nat.lt_of_lt_of_le deep (Nat.le_max_left _ _))
    | same fits place =>
      have rest := ih (Nat.le_of_succ_le_succ enough) place ((key, json) :: soFar)
      simp only [List.reverse_cons, List.append_assoc, List.singleton_append]
      generalize foldMembers id (addMember id levels') steps' false ((key, json) :: soFar) _ = outcome at rest
      cases rest with
      | tooDeep position deep => exact .tooDeep position (Nat.lt_of_lt_of_le deep (Nat.le_max_right _ _))
      | same fits' place => exact .same (Nat.max_le.mpr ⟨fits, fits'⟩) place

end Inside

/-- A value that was read is read again in a text that goes on, if the levels are enough. -/
theorem rereads (ends : EndsNumber tail) (extended : cursor.ExtendedBy tail longer)
    (read : readValue id levels cursor = .ok (json, behind)) :
    Rereads tail json.depth levels' json behind (readValue id levels' longer) := by
  induction levels generalizing levels' cursor longer behind json with
  | zero =>
    cases reading_of_ok read with
    | scalar begun => exact rereads_scalar ends extended begun
  | succ levels ih =>
    cases reading_of_ok read with
    | scalar begun => exact rereads_scalar ends extended begun
    | @list _ _ last _ rest items begun inside ended =>
      have begun' := extended.rest_skipBlank begun
      cases levels' with
      | zero =>
        have read' : readValue id 0 longer = .error (longer.skipBlank.faultNext .tooDeep) := by
          simp only [readValue, scalar?_of_open (.inl rfl) begun', begun']
        rw [read']
        exact .tooDeep _ (Nat.succ_pos _)
      | succ levels' =>
        have place := extended.next_skipBlank begun
        have items : Rereads tail (depthOfItems items) levels' (items.reverse ++ []) last _ :=
          rereads_items (ih · ·) (Nat.succ_le_succ place.length_le) inside place []
        rw [readValue_of_bracket begun', listOf]
        generalize foldItems id (addItem id levels') _ true [] longer.skipBlank.next = outcome at items
        cases items with
        | tooDeep position deep => exact .tooDeep position (Nat.succ_lt_succ deep)
        | same fits place =>
          obtain ⟨behind', ended', place⟩ := endList_extended place ended
          simp only [ended', List.append_nil, List.reverse_reverse]
          exact .same (Nat.succ_le_succ fits) place
    | @object _ _ last _ rest members begun inside ended =>
      have begun' := extended.rest_skipBlank begun
      cases levels' with
      | zero =>
        have read' : readValue id 0 longer = .error (longer.skipBlank.faultNext .tooDeep) := by
          simp only [readValue, scalar?_of_open (.inr rfl) begun', begun']
        rw [read']
        exact .tooDeep _ (Nat.succ_pos _)
      | succ levels' =>
        have place := extended.next_skipBlank begun
        have members : Rereads tail (depthOfMembers members) levels' (members.reverse ++ []) last _ :=
          rereads_members (ih · ·) (Nat.succ_le_succ place.length_le) inside place []
        rw [readValue_of_brace begun', membersOf]
        generalize foldMembers id (addMember id levels') _ true [] longer.skipBlank.next = outcome at members
        cases members with
        | tooDeep position deep => exact .tooDeep position (Nat.succ_lt_succ deep)
        | same fits place =>
          obtain ⟨behind', ended', place⟩ := endObject_extended place ended
          simp only [ended', List.append_nil, List.reverse_reverse]
          exact .same (Nat.succ_le_succ fits) place

theorem extendedBy_nil : cursor.ExtendedBy [] cursor := (List.append_nil _).symm

theorem endsNumber_nil : EndsNumber [] := by
  intro c first
  cases first

theorem blank_of_skip (inClass : Char → Bool) (text : List Char) (position : Position)
    (all : (Cursor.skip inClass text position).rest = []) : ∀ c ∈ text, inClass c := by
  induction text generalizing position with
  | nil => nofun
  | cons c text ih =>
    rw [Cursor.skip] at all
    split at all
    · next inside =>
      intro other there
      rcases List.mem_cons.mp there with rfl | later
      · exact inside
      · exact ih _ all other later
    · cases all

theorem blank_of_finish (finished : finish cursor = .ok ()) : ∀ c ∈ cursor.rest, isBlank c := by
  simp only [finish] at finished
  split at finished
  · next known => exact blank_of_skip isBlank _ _ known
  · cases finished

/-- The value of a whole text, with all members, that a reader with so many levels finds. -/
def parseWithin (levels : Nat) (text : String) : Except Fault Json := do
  let (result, cursor) ← readValue id levels (.ofText text)
  finish cursor
  return result

variable {text whole : String} {written : Json}

theorem parseWithin_eq_ok_iff : parseWithin levels text = .ok written ↔
    ∃ behind, readValue id levels (.ofText text) = .ok (written, behind) ∧ finish behind = .ok () := by
  rw [parseWithin, bind_eq_ok_iff]
  constructor
  · rintro ⟨⟨found, behind⟩, read, closed⟩
    obtain ⟨_, finished, same⟩ := bind_eq_ok_iff.mp closed
    cases same
    exact ⟨behind, read, finished⟩
  · rintro ⟨behind, read, finished⟩
    exact ⟨(written, behind), read, bind_eq_ok_iff.mpr ⟨(), finished, rfl⟩⟩

theorem finish_of_rest (finished : finish cursor = .ok ()) (same : longer.rest = cursor.rest) :
    finish longer = .ok () := by
  obtain ⟨rest, position⟩ := cursor
  obtain ⟨_, position'⟩ := longer
  cases same
  obtain ⟨last, skipped⟩ := skipBlank_append (blank_of_finish finished) [] position'
  rw [List.append_nil] at skipped
  simp only [finish, skipped]
  rfl

/-- What a reader with any number of levels finds is found with the usual one, unless it is nested
too deeply. -/
theorem parseAll_of_within (read : parseWithin levels text = .ok written) :
    if written.depth ≤ nestingLimit then parseAll text = .ok written
    else ∃ position, parseAll text = .error ⟨.tooDeep, position⟩ := by
  obtain ⟨behind, read, finished⟩ := parseWithin_eq_ok_iff.mp read
  have again : Rereads [] written.depth nestingLimit written behind _ := rereads endsNumber_nil extendedBy_nil read
  rw [parseAll]
  generalize readValue id nestingLimit (.ofText text) = outcome at again
  cases again with
  | tooDeep position deep =>
    rw [if_neg (Nat.not_le.mpr deep)]
    exact ⟨position, rfl⟩
  | @same behind' fits place =>
    rw [if_pos fits]
    have ended : finish behind' = .ok () := finish_of_rest finished (place.trans (List.append_nil _))
    simp only [bind, Except.bind, ended]
    rfl

/-- The text of an object whose one member holds the value of a text. -/
def enclosing (key : String) (text : List Char) : List Char := '{' :: (quote key ++ ':' :: (text ++ ['}']))

theorem close_enclosing {blanks : List Char} (blank : ∀ c ∈ blanks, isBlank c)
    (place : cursor.rest = blanks ++ ['}']) (first : Bool) : ∃ last position, nextKey first cursor = .ok (none, last) ∧
      endObject last = .ok ⟨[], position⟩ := by
  obtain ⟨behind, skipped⟩ := skipBlank_append blank ['}'] cursor.position
  have found : cursor.skipBlank = ⟨['}'], behind⟩ := by
    obtain ⟨rest, position⟩ := cursor
    obtain rfl : rest = blanks ++ ['}'] := place
    exact skipped.trans (skipBlank_of_not rfl [] behind)
  refine ⟨⟨['}'], behind⟩, behind.after '}', ?_, rfl⟩
  simp only [nextKey, found]

/-- A value is read as the only member of an object, unless it has all levels for itself. -/
theorem parseAll_enclosing (key : String) (read : parseWithin levels text = .ok written)
    (form : whole.toList = enclosing key text.toList) :
    if written.depth < nestingLimit then parseAll whole = .ok (.object [(key, written)])
    else ∃ position, parseAll whole = .error ⟨.tooDeep, position⟩ := by
  obtain ⟨behind, read, finished⟩ := parseWithin_eq_ok_iff.mp read
  have begun : (Cursor.ofText whole).skipBlank.rest = '{' :: (quote key ++ ':' :: (text.toList ++ ['}'])) := by
    rw [Cursor.ofText, form, enclosing, skipBlank_of_not rfl]
  obtain ⟨length, long⟩ : ∃ length, (Cursor.ofText whole).skipBlank.next.rest.length = length + 1 := by
    rw [Cursor.rest_next begun, quote]
    exact ⟨_, rfl⟩
  -- The key and its colon lead to the value.
  obtain ⟨position, first⟩ := nextKey_first none 0 key (':' :: (text.toList ++ ['}']))
    (Cursor.ofText whole).skipBlank.next.position
  have inside : (Cursor.ofText whole).skipBlank.next = ⟨Layout.line none 0 ++ (quote key ++
      ':' :: (text.toList ++ ['}'])), (Cursor.ofText whole).skipBlank.next.position⟩ := by
    rw [Layout.line, List.nil_append, ← Cursor.rest_next begun]
  rw [← inside] at first
  have colon : readColon ⟨':' :: (text.toList ++ ['}']), position⟩ =
      .ok ⟨text.toList ++ ['}'], position.after ':'⟩ := by
    simp only [readColon, skipBlank_of_not (c := ':') rfl, Cursor.next]
  have extended : (Cursor.ofText text).ExtendedBy ['}'] ⟨text.toList ++ ['}'], position.after ':'⟩ := rfl
  have ends : EndsNumber ['}'] := (endsValue_cons (by decide) []).endsNumber
  obtain ⟨inner, limit⟩ : ∃ inner, nestingLimit = inner + 1 := ⟨_, rfl⟩
  have again : Rereads ['}'] written.depth inner written behind _ := rereads ends extended read
  obtain ⟨outcome, value⟩ : ∃ outcome, readValue id inner ⟨text.toList ++ ['}'], position.after ':'⟩ = outcome :=
    ⟨_, rfl⟩
  rw [value] at again
  rw [parseAll, limit, readValue_of_brace begun, membersOf, long]
  cases again with
  | tooDeep position deep =>
    rw [if_neg (by omega)]
    simp only [foldMembers, first, addMember, colon, value]
    exact ⟨position, rfl⟩
  | @same behind' fits place =>
    rw [if_pos (by omega)]
    obtain ⟨last, position', closed, ended⟩ := close_enclosing (blank_of_finish finished) place false
    simp only [foldMembers, first, addMember, colon, value, closed, ended]
    rfl

end ComponentDocs.Json
