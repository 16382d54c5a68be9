/-! Places in a JSON text, and the faults found there. Columns count bytes, because
that is how far a reader of UTF-8 has come. -/
namespace ComponentDocs.Json

/-- Lines count from one, columns from zero at the beginning of each line. -/
structure Position where
  line : Nat := 1
  column : Nat := 0
deriving DecidableEq

/-- The place behind a character. -/
def Position.after (c : Char) (position : Position) : Position :=
  if c = '\n' then ⟨position.line + 1, 0⟩ else ⟨position.line, position.column + c.utf8Size⟩

/-- What can be wrong with a text that is to hold one JSON value. -/
inductive Cause
  | endInList
  | endInObject
  | endInString
  | endInValue
  | expectedColon
  | expectedListCommaOrEnd
  | expectedObjectCommaOrEnd
  | expectedIdentifier
  | expectedValue
  | invalidEscape
  | invalidNumber
  | numberOutOfRange
  | controlCharacter
  | keyNotString
  | loneSurrogate
  | trailingComma
  | trailingCharacters
  | brokenSurrogatePair
  | tooDeep
deriving DecidableEq

namespace Cause

def message : Cause → String
  | .endInList => "EOF while parsing a list"
  | .endInObject => "EOF while parsing an object"
  | .endInString => "EOF while parsing a string"
  | .endInValue => "EOF while parsing a value"
  | .expectedColon => "expected `:`"
  | .expectedListCommaOrEnd => "expected `,` or `]`"
  | .expectedObjectCommaOrEnd => "expected `,` or `\x7d`"
  | .expectedIdentifier => "expected ident"
  | .expectedValue => "expected value"
  | .invalidEscape => "invalid escape"
  | .invalidNumber => "invalid number"
  | .numberOutOfRange => "number out of range"
  | .controlCharacter => "control character (\\u0000-\\u001F) found while parsing a string"
  | .keyNotString => "key must be a string"
  | .loneSurrogate => "lone leading surrogate in hex escape"
  | .trailingComma => "trailing comma"
  | .trailingCharacters => "trailing characters"
  | .brokenSurrogatePair => "unexpected end of hex escape"
  | .tooDeep => "recursion limit exceeded"

/-- The text ends too early; a longer one could be right. -/
def isEnd : Cause → Bool
  | .endInList | .endInObject | .endInString | .endInValue => true
  | _ => false

end Cause

structure Fault where
  cause : Cause
  position : Position
deriving DecidableEq

def Fault.message (fault : Fault) : String :=
  fault.cause.message ++ " at line " ++ toString fault.position.line ++
    " column " ++ toString fault.position.column

/-- The rest of a text and the place where it begins. -/
structure Cursor where
  rest : List Char
  position : Position := {}

namespace Cursor

def ofText (text : String) : Cursor := { rest := text.toList }

def next (cursor : Cursor) : Cursor :=
  match cursor.rest with
  | [] => cursor
  | c :: rest => ⟨rest, cursor.position.after c⟩

/-- The place so many bytes further on, which may lie inside a character; no further
than the end of the text. -/
def placeAfter (bytes : Nat) : List Char → Position → Position
  | [], position => position
  | c :: rest, position =>
    if bytes < c.utf8Size then ⟨position.line, position.column + bytes⟩
    else placeAfter (bytes - c.utf8Size) rest (position.after c)

def atEnd (cursor : Cursor) : Cursor :=
  ⟨[], cursor.rest.foldl (fun position c => position.after c) cursor.position⟩

def fault (cursor : Cursor) (cause : Cause) : Fault := ⟨cause, cursor.position⟩

/-- A fault that counts `bytes` more bytes as read. -/
def faultAfter (bytes : Nat) (cursor : Cursor) (cause : Cause) : Fault :=
  ⟨cause, placeAfter bytes cursor.rest cursor.position⟩

/-- A fault that counts the next byte as read. -/
def faultNext (cursor : Cursor) (cause : Cause) : Fault := cursor.faultAfter 1 cause

end Cursor

/-- The four characters that separate tokens. -/
def isBlank (c : Char) : Bool := c = ' ' || c = '\n' || c = '\t' || c = '\r'

namespace Cursor

/-- The longest run of characters in a class, and the cursor behind it. -/
def span (inClass : Char → Bool) : List Char → Position → List Char × Cursor
  | [], position => ([], ⟨[], position⟩)
  | c :: rest, position =>
    if inClass c then
      let (run, cursor) := span inClass rest (position.after c)
      (c :: run, cursor)
    else ([], ⟨c :: rest, position⟩)

/-- The cursor behind a run of characters in a class. -/
def skip (inClass : Char → Bool) : List Char → Position → Cursor
  | [], position => ⟨[], position⟩
  | c :: rest, position =>
    if inClass c then skip inClass rest (position.after c) else ⟨c :: rest, position⟩

def skipBlank (cursor : Cursor) : Cursor := skip isBlank cursor.rest cursor.position

end Cursor

end ComponentDocs.Json
