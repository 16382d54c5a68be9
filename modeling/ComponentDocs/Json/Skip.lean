import ComponentDocs.Json.Reader

/-! Passing over a value that nobody asked for. Less is checked than when a value is
read: surrogates need not pair up, numbers have no range, and nesting has no limit. -/
namespace ComponentDocs.Json

/-- A string behind its opening quote. Every step reads a character. -/
def skipStringFrom : Nat → Cursor → Except Fault Cursor
  | 0, cursor => .error (cursor.fault .endInString)
  | steps + 1, cursor =>
    match cursor.rest with
    | [] => .error (cursor.fault .endInString)
    | '\"' :: _ => .ok cursor.next
    | '\\' :: _ =>
      let cursor := cursor.next
      match cursor.rest with
      | [] => .error (cursor.fault .endInString)
      | 'u' :: _ =>
        match hexUnit cursor.next with
        | .ok (_, cursor) => skipStringFrom steps cursor
        | .error fault => .error fault
      | c :: _ =>
        match simpleEscape? c with
        | some _ => skipStringFrom steps cursor.next
        | none => .error (cursor.faultNext .invalidEscape)
    | c :: _ =>
      if c.toNat < 32 then .error (cursor.fault .controlCharacter)
      else skipStringFrom steps cursor.next

def skipString (cursor : Cursor) : Except Fault Cursor :=
  skipStringFrom (cursor.rest.length + 1) cursor

def skipDigits (cursor : Cursor) : Cursor := Cursor.skip isDigit cursor.rest cursor.position

/-- Exponent digits, behind the `e`. -/
def skipExponent (cursor : Cursor) : Except Fault Cursor :=
  let cursor := match cursor.rest with
    | '+' :: _ | '-' :: _ => cursor.next
    | _ => cursor
  match cursor.rest with
  | c :: _ => if isDigit c then .ok (skipDigits cursor) else .error (cursor.faultNext .invalidNumber)
  | [] => .error (cursor.faultNext .invalidNumber)

def skipExponent? (cursor : Cursor) : Except Fault Cursor :=
  match cursor.rest with
  | 'e' :: _ | 'E' :: _ => skipExponent cursor.next
  | _ => .ok cursor

/-- What may follow the whole part of a number. -/
def skipWholePart (cursor : Cursor) : Except Fault Cursor :=
  match cursor.rest with
  | '.' :: _ =>
    let cursor := cursor.next
    match cursor.rest with
    | c :: _ =>
      if isDigit c then skipExponent? (skipDigits cursor)
      else .error (cursor.faultNext .invalidNumber)
    | [] => .error (cursor.faultNext .invalidNumber)
  | _ => skipExponent? cursor

def skipNumber (cursor : Cursor) : Except Fault Cursor :=
  match cursor.rest with
  | '0' :: more =>
    match more with
    | c :: _ =>
      if isDigit c then .error (cursor.next.faultNext .invalidNumber)
      else skipWholePart cursor.next
    | [] => skipWholePart cursor.next
  | c :: _ =>
    if isDigit c then skipWholePart (skipDigits cursor)
    else .error (cursor.faultNext .invalidNumber)
  | [] => .error (cursor.faultNext .invalidNumber)

def skipKey (cursor : Cursor) : Except Fault Cursor := do
  let cursor := cursor.skipBlank
  match cursor.rest with
  | [] => throw (cursor.fault .endInObject)
  | '\"' :: _ => readColon (← skipString cursor.next)
  | _ => throw (cursor.faultNext .keyNotString)

mutual

/-- A value, at most `steps` steps long; no value takes more than two steps for each
of its characters. -/
def skipValueFrom : Nat → Cursor → Except Fault Cursor
  | 0, cursor => .error (cursor.fault .endInValue)
  | steps + 1, cursor => do
    let cursor := cursor.skipBlank
    match cursor.rest with
    | [] => throw (cursor.fault .endInValue)
    | 'n' :: _ => readLiteral ['u', 'l', 'l'] cursor.next
    | 't' :: _ => readLiteral ['r', 'u', 'e'] cursor.next
    | 'f' :: _ => readLiteral ['a', 'l', 's', 'e'] cursor.next
    | '-' :: _ => skipNumber cursor.next
    | '\"' :: _ => skipString cursor.next
    | '[' :: _ =>
      let cursor := cursor.next.skipBlank
      match cursor.rest with
      | [] => throw (cursor.fault .endInList)
      | ']' :: _ => return cursor.next
      | _ => skipItemsFrom steps cursor
    | '{' :: _ =>
      let cursor := cursor.next.skipBlank
      match cursor.rest with
      | '}' :: _ => return cursor.next
      | _ => skipMembersFrom steps cursor
    | c :: _ =>
      if isDigit c then skipNumber cursor else throw (cursor.faultNext .expectedValue)

/-- The items of a list that has one, through the closing bracket. -/
def skipItemsFrom : Nat → Cursor → Except Fault Cursor
  | 0, cursor => .error (cursor.fault .endInList)
  | steps + 1, cursor => do
    let cursor ← skipValueFrom steps cursor
    let cursor := cursor.skipBlank
    match cursor.rest with
    | [] => throw (cursor.fault .endInList)
    | ',' :: _ => skipItemsFrom steps cursor.next
    | ']' :: _ => return cursor.next
    | _ => throw (cursor.faultNext .expectedListCommaOrEnd)

/-- The members of an object that has one, through the closing brace. -/
def skipMembersFrom : Nat → Cursor → Except Fault Cursor
  | 0, cursor => .error (cursor.fault .endInObject)
  | steps + 1, cursor => do
    let cursor ← skipKey cursor
    let cursor ← skipValueFrom steps cursor
    let cursor := cursor.skipBlank
    match cursor.rest with
    | [] => throw (cursor.fault .endInObject)
    | ',' :: _ => skipMembersFrom steps cursor.next
    | '}' :: _ => return cursor.next
    | _ => throw (cursor.faultNext .expectedObjectCommaOrEnd)

end

/-- Passes over one value. -/
def skipValue (cursor : Cursor) : Except Fault Cursor :=
  skipValueFrom (2 * cursor.rest.length + 2) cursor

end ComponentDocs.Json
