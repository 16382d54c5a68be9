import ComponentDocs.Json.Basic
import ComponentDocs.Json.Cursor
import ComponentDocs.Json.Decimal

/-! The tokens of a JSON text that are more than one character: literals, strings
and numbers. -/
namespace ComponentDocs.Json

/-- Reads the rest of a literal, character by character. -/
def readLiteral : List Char → Cursor → Except Fault Cursor
  | [], cursor => .ok cursor
  | expected :: more, cursor =>
    match cursor.rest with
    | [] => .error (cursor.fault .endInValue)
    | c :: _ =>
      if c = expected then readLiteral more cursor.next
      else .error (cursor.faultNext .expectedIdentifier)

def hexDigit? (c : Char) : Option Nat :=
  if '0' ≤ c ∧ c ≤ '9' then some (c.toNat - '0'.toNat)
  else if 'a' ≤ c ∧ c ≤ 'f' then some (c.toNat - 'a'.toNat + 10)
  else if 'A' ≤ c ∧ c ≤ 'F' then some (c.toNat - 'A'.toNat + 10)
  else none

/-- The number that the four next characters spell in hexadecimal digits. With fewer
than four bytes left the whole text counts as read. -/
def hexUnit (cursor : Cursor) : Except Fault (Nat × Cursor) :=
  if (cursor.rest.take 4).foldl (fun bytes c => bytes + c.utf8Size) 0 < 4 then
    .error (cursor.atEnd.fault .endInString)
  else
    match cursor.rest with
    | a :: b :: c :: d :: _ =>
      match hexDigit? a, hexDigit? b, hexDigit? c, hexDigit? d with
      | some a, some b, some c, some d =>
        .ok (((a * 16 + b) * 16 + c) * 16 + d, cursor.next.next.next.next)
      | _, _, _, _ => .error (cursor.faultAfter 4 .invalidEscape)
    | _ => .error (cursor.faultAfter 4 .invalidEscape)

/-- Reads one given character inside a string, where `cause` is the fault of any other. -/
def inString (expected : Char) (cause : Cause) (cursor : Cursor) : Except Fault Cursor :=
  match cursor.rest with
  | [] => .error (cursor.fault .endInString)
  | c :: _ => if c = expected then .ok cursor.next else .error (cursor.faultNext cause)

/-- The character of a numeric escape, behind its `u`. Characters beyond the first
65536 take two escapes, a high surrogate and a low one. -/
def numericEscape (cursor : Cursor) : Except Fault (Char × Cursor) := do
  let (unit, cursor) ← hexUnit cursor
  if 0xDC00 ≤ unit ∧ unit ≤ 0xDFFF then
    throw (cursor.fault .loneSurrogate)
  else if 0xD800 ≤ unit ∧ unit ≤ 0xDBFF then
    let cursor ← inString '\\' .brokenSurrogatePair cursor
    let cursor ← inString 'u' .brokenSurrogatePair cursor
    let (low, cursor) ← hexUnit cursor
    if 0xDC00 ≤ low ∧ low ≤ 0xDFFF then
      return (Char.ofNat ((unit - 0xD800) * 0x400 + (low - 0xDC00) + 0x10000), cursor)
    else throw (cursor.fault .loneSurrogate)
  else
    return (Char.ofNat unit, cursor)

/-- What a letter after a backslash stands for. -/
def simpleEscape? : Char → Option Char
  | '\"' => some '\"'
  | '\\' => some '\\'
  | '/' => some '/'
  | 'b' => some '\x08'
  | 'f' => some '\x0c'
  | 'n' => some '\n'
  | 'r' => some '\r'
  | 't' => some '\t'
  | _ => none

/-- The character of an escape, behind its backslash. -/
def escape (cursor : Cursor) : Except Fault (Char × Cursor) :=
  match cursor.rest with
  | [] => .error (cursor.fault .endInString)
  | 'u' :: _ => numericEscape cursor.next
  | c :: _ =>
    match simpleEscape? c with
    | some char => .ok (char, cursor.next)
    | none => .error (cursor.faultNext .invalidEscape)

/-- The characters of a string behind its opening quote, through its closing one. Every
step reads a character, so the length of the text bounds the steps. -/
def stringFrom : Nat → List Char → Cursor → Except Fault (String × Cursor)
  | 0, _, cursor => .error (cursor.fault .endInString)
  | steps + 1, reversed, cursor =>
    match cursor.rest with
    | [] => .error (cursor.fault .endInString)
    | '\"' :: _ => .ok (String.ofList reversed.reverse, cursor.next)
    | '\\' :: _ =>
      match escape cursor.next with
      | .ok (c, cursor) => stringFrom steps (c :: reversed) cursor
      | .error fault => .error fault
    | c :: _ =>
      if c.toNat < 32 then .error (cursor.faultNext .controlCharacter)
      else stringFrom steps (c :: reversed) cursor.next

def readString (cursor : Cursor) : Except Fault (String × Cursor) :=
  stringFrom (cursor.rest.length + 1) [] cursor

def isDigit (c : Char) : Bool := '0' ≤ c && c ≤ '9'

def digits (cursor : Cursor) : List Nat × Cursor :=
  let (run, cursor) := Cursor.span isDigit cursor.rest cursor.position
  (run.map fun c => c.toNat - '0'.toNat, cursor)

/-- Appends digits to a number while it stays within `limit`. Also says how many
digits were appended. -/
def appendDigits (limit : Nat) : Nat → List Nat → Nat × Nat
  | soFar, [] => (soFar, 0)
  | soFar, digit :: more =>
    if soFar * 10 + digit ≤ limit then
      let (longer, count) := appendDigits limit (soFar * 10 + digit) more
      (longer, count + 1)
    else (soFar, 0)

/-- The greatest significand that is kept digit by digit; later digits only scale it. -/
def significandLimit : Nat := Nat.pow 2 64 - 1

def exponentLimit : Nat := Nat.pow 2 31 - 1

/-- Digits of a number as far as they were read. -/
structure Significand where
  negative : Bool
  value : Nat
  exponent : Int

/-- The binary64 value of decimal parts. -/
def ofSignificand (parts : Significand) (cursor : Cursor) : Except Fault (Number × Cursor) :=
  match Decimal.ofParts parts.negative parts.value parts.exponent with
  | some bits => .ok (.float bits, cursor)
  | none => .error (cursor.fault .numberOutOfRange)

/-- The exponent of a number, behind its `e`. An exponent beyond 32 bits makes the
number zero, or puts it out of range as soon as its digits show that. -/
def exponentPart (parts : Significand) (cursor : Cursor) : Except Fault (Number × Cursor) :=
  let (down, cursor) := match cursor.rest with
    | '+' :: _ => (false, cursor.next)
    | '-' :: _ => (true, cursor.next)
    | _ => (false, cursor)
  match digits cursor, cursor.rest with
  | ([], _), [] => .error (cursor.fault .endInValue)
  | ([], _), _ => .error (cursor.faultNext .invalidNumber)
  | (run, behind), _ =>
    let (power, count) := appendDigits exponentLimit 0 run
    if count = run.length then
      let shift : Int := if down then -power else power
      ofSignificand { parts with exponent := parts.exponent + shift } behind
    else if parts.value ≠ 0 ∧ !down then
      .error (cursor.faultAfter (count + 1) .numberOutOfRange)
    else
      ofSignificand { parts with value := 0, exponent := 0 } behind

/-- The fraction of a number, behind its point: at least one digit. -/
def fractionPart (parts : Significand) (cursor : Cursor) : Except Fault (Number × Cursor) :=
  match digits cursor, cursor.rest with
  | ([], _), [] => .error (cursor.fault .endInValue)
  | ([], _), _ => .error (cursor.faultNext .invalidNumber)
  | (run, behind), _ =>
    let (value, count) := appendDigits significandLimit parts.value run
    let parts := { parts with value, exponent := parts.exponent - count }
    match behind.rest with
    | 'e' :: _ | 'E' :: _ => exponentPart parts behind.next
    | _ => ofSignificand parts behind

/-- A whole number: a natural one, or the negative of one up to `2 ^ 63`. The negative
of zero and negatives beyond that are binary64 values. -/
def whole (parts : Significand) (cursor : Cursor) : Except Fault (Number × Cursor) :=
  if parts.exponent ≠ 0 then ofSignificand parts cursor
  else if !parts.negative then .ok (.natural parts.value, cursor)
  else if 0 < parts.value ∧ parts.value ≤ Nat.pow 2 63 then .ok (.negative parts.value, cursor)
  else ofSignificand parts cursor

/-- What may follow the whole part of a number. -/
def wholePart (parts : Significand) (cursor : Cursor) : Except Fault (Number × Cursor) :=
  match cursor.rest with
  | '.' :: _ => fractionPart parts cursor.next
  | 'e' :: _ | 'E' :: _ => exponentPart parts cursor.next
  | _ => whole parts cursor

/-- A number behind its sign. A zero is not followed by another digit. -/
def readNumber (negative : Bool) (cursor : Cursor) : Except Fault (Number × Cursor) :=
  match cursor.rest with
  | [] => .error (cursor.fault .endInValue)
  | '0' :: more =>
    match more with
    | c :: _ =>
      if isDigit c then .error (cursor.next.faultNext .invalidNumber)
      else wholePart ⟨negative, 0, 0⟩ cursor.next
    | [] => wholePart ⟨negative, 0, 0⟩ cursor.next
  | c :: _ =>
    if isDigit c then
      let (run, behind) := digits cursor
      let (value, count) := appendDigits significandLimit 0 run
      wholePart ⟨negative, value, run.length - count⟩ behind
    else .error (cursor.faultNext .invalidNumber)

end ComponentDocs.Json
