import ComponentDocs.Json.Scan

/-! Reading JSON texts. The steps between items and members are shared by every
reader; a reader of arbitrary values stands at the end. -/
namespace ComponentDocs.Json

/-- How many lists and objects may be open around a value: entering one more than
this is refused. -/
def nestingLimit : Nat := 127

/-- Whether a list goes on. Reads the comma before every item but the first. -/
def nextItem (first : Bool) (cursor : Cursor) : Except Fault (Bool × Cursor) :=
  let cursor := cursor.skipBlank
  match cursor.rest with
  | [] => .error (cursor.fault .endInList)
  | ']' :: _ => .ok (false, cursor)
  | c :: _ =>
    if first then .ok (true, cursor)
    else if c = ',' then
      let cursor := cursor.next.skipBlank
      match cursor.rest with
      | [] => .error (cursor.fault .endInValue)
      | ']' :: _ => .error (cursor.faultNext .trailingComma)
      | _ => .ok (true, cursor)
    else .error (cursor.faultNext .expectedListCommaOrEnd)

def endList (cursor : Cursor) : Except Fault Cursor :=
  let cursor := cursor.skipBlank
  match cursor.rest with
  | [] => .error (cursor.fault .endInList)
  | ']' :: _ => .ok cursor.next
  | ',' :: _ =>
    let cursor := cursor.next.skipBlank
    match cursor.rest with
    | ']' :: _ => .error (cursor.faultNext .trailingComma)
    | _ => .error (cursor.faultNext .trailingCharacters)
  | _ => .error (cursor.faultNext .trailingCharacters)

/-- Reads a key at the cursor. -/
def readKey (cursor : Cursor) : Except Fault (Option String × Cursor) :=
  match readString cursor.next with
  | .ok (text, cursor) => .ok (some text, cursor)
  | .error fault => .error fault

/-- The next key of an object, if the object goes on. Reads the comma before every
member but the first. -/
def nextKey (first : Bool) (cursor : Cursor) : Except Fault (Option String × Cursor) :=
  let cursor := cursor.skipBlank
  match cursor.rest with
  | [] => .error (cursor.fault .endInObject)
  | '}' :: _ => .ok (none, cursor)
  | c :: _ =>
    if first then
      if c = '\"' then readKey cursor else .error (cursor.faultNext .keyNotString)
    else if c = ',' then
      let cursor := cursor.next.skipBlank
      match cursor.rest with
      | [] => .error (cursor.fault .endInValue)
      | '\"' :: _ => readKey cursor
      | '}' :: _ => .error (cursor.faultNext .trailingComma)
      | _ => .error (cursor.faultNext .keyNotString)
    else .error (cursor.faultNext .expectedObjectCommaOrEnd)

def readColon (cursor : Cursor) : Except Fault Cursor :=
  let cursor := cursor.skipBlank
  match cursor.rest with
  | [] => .error (cursor.fault .endInObject)
  | ':' :: _ => .ok cursor.next
  | _ => .error (cursor.faultNext .expectedColon)

def endObject (cursor : Cursor) : Except Fault Cursor :=
  let cursor := cursor.skipBlank
  match cursor.rest with
  | [] => .error (cursor.fault .endInObject)
  | '}' :: _ => .ok cursor.next
  | ',' :: _ => .error (cursor.faultNext .trailingComma)
  | _ => .error (cursor.faultNext .trailingCharacters)

section Fold

variable {ε α : Type} (raise : Fault → ε)

/-- Reads the items of a list up to its closing bracket, with a reader that adds one
item to what was read before. Every step reads a character, so the length of the text
bounds the steps. -/
def foldItems (item : α → Cursor → Except ε (α × Cursor)) :
    Nat → Bool → α → Cursor → Except ε (α × Cursor)
  | 0, _, _, cursor => .error (raise (cursor.fault .endInList))
  | steps + 1, first, soFar, cursor =>
    match nextItem first cursor with
    | .error fault => .error (raise fault)
    | .ok (false, cursor) => .ok (soFar, cursor)
    | .ok (true, cursor) =>
      match item soFar cursor with
      | .error error => .error error
      | .ok (soFar, cursor) => foldItems item steps false soFar cursor

/-- Reads the members of an object up to its closing brace. The reader is given each
key with the cursor behind it, still before the colon. -/
def foldMembers (member : String → α → Cursor → Except ε (α × Cursor)) :
    Nat → Bool → α → Cursor → Except ε (α × Cursor)
  | 0, _, _, cursor => .error (raise (cursor.fault .endInObject))
  | steps + 1, first, soFar, cursor =>
    match nextKey first cursor with
    | .error fault => .error (raise fault)
    | .ok (none, cursor) => .ok (soFar, cursor)
    | .ok (some key, cursor) =>
      match member key soFar cursor with
      | .error error => .error error
      | .ok (soFar, cursor) => foldMembers member steps false soFar cursor

def listOf (item : α → Cursor → Except ε (α × Cursor)) (start : α) (cursor : Cursor) :
    Except ε (α × Cursor) :=
  match foldItems raise item (cursor.rest.length + 1) true start cursor with
  | .error error => .error error
  | .ok (result, cursor) =>
    match endList cursor with
    | .error fault => .error (raise fault)
    | .ok cursor => .ok (result, cursor)

/-- The members of an object, behind its opening brace, without the closing one. -/
def membersOf (member : String → α → Cursor → Except ε (α × Cursor)) (start : α)
    (cursor : Cursor) : Except ε (α × Cursor) :=
  foldMembers raise member (cursor.rest.length + 1) true start cursor

end Fold

/-- A literal value: its first character is at the cursor. -/
def literalValue (rest : List Char) (value : Json) (cursor : Cursor) :
    Except Fault (Json × Cursor) :=
  match readLiteral rest cursor.next with
  | .ok cursor => .ok (value, cursor)
  | .error fault => .error fault

def numberValue (negative : Bool) (cursor : Cursor) : Except Fault (Json × Cursor) :=
  match readNumber negative cursor with
  | .ok (value, cursor) => .ok (.number value, cursor)
  | .error fault => .error fault

/-- A value without inner values, if one begins at the cursor. -/
def scalar? (cursor : Cursor) : Option (Except Fault (Json × Cursor)) :=
  match cursor.rest with
  | 'n' :: _ => some (literalValue ['u', 'l', 'l'] .null cursor)
  | 't' :: _ => some (literalValue ['r', 'u', 'e'] (.bool true) cursor)
  | 'f' :: _ => some (literalValue ['a', 'l', 's', 'e'] (.bool false) cursor)
  | '-' :: _ => some (numberValue true cursor.next)
  | '\"' :: _ =>
    some (match readString cursor.next with
      | .ok (text, cursor) => .ok (.string text, cursor)
      | .error fault => .error fault)
  | c :: _ => if isDigit c then some (numberValue false cursor) else none
  | [] => none

/-- Any value. `keep` says what becomes of the members of an object, and `levels` how
many lists and objects may still be entered. -/
def readValue (keep : Members → Members) (levels : Nat) (cursor : Cursor) :
    Except Fault (Json × Cursor) :=
  let cursor := cursor.skipBlank
  match scalar? cursor with
  | some result => result
  | none =>
    match cursor.rest with
    | [] => .error (cursor.fault .endInValue)
    | '[' :: _ =>
      match levels with
      | 0 => .error (cursor.faultNext .tooDeep)
      | levels + 1 =>
        let read := listOf id
          (fun items cursor =>
            match readValue keep levels cursor with
            | .ok (item, cursor) => .ok (item :: items, cursor)
            | .error fault => .error fault)
          [] cursor.next
        match read with
        | .ok (items, cursor) => .ok (.array items.reverse, cursor)
        | .error fault => .error fault
    | '{' :: _ =>
      match levels with
      | 0 => .error (cursor.faultNext .tooDeep)
      | levels + 1 =>
        let read := membersOf id
          (fun key members cursor =>
            match readColon cursor with
            | .error fault => .error fault
            | .ok cursor =>
              match readValue keep levels cursor with
              | .ok (item, cursor) => .ok ((key, item) :: members, cursor)
              | .error fault => .error fault)
          [] cursor.next
        match read with
        | .error fault => .error fault
        | .ok (members, cursor) =>
          match endObject cursor with
          | .ok cursor => .ok (.object (keep members.reverse), cursor)
          | .error fault => .error fault
    | _ => .error (cursor.faultNext .expectedValue)

/-- Nothing but blanks is left. -/
def finish (cursor : Cursor) : Except Fault Unit :=
  let cursor := cursor.skipBlank
  match cursor.rest with
  | [] => .ok ()
  | _ => .error (cursor.faultNext .trailingCharacters)

/-- The value of a whole text. Of members with one key the last value stays, at the
first position. -/
def parse (text : String) : Except Fault Json := do
  let (result, cursor) ← readValue merge nestingLimit (.ofText text)
  finish cursor
  return result

end ComponentDocs.Json
