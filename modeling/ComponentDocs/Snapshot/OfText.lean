import ComponentDocs.Json.Skip
import ComponentDocs.Snapshot.OfJson

/-! Reading a JSON text directly under a shape, without a JSON value in between. The
first problem in the order of the text is the one reported, be it a fault of the text
or a mismatch. -/
namespace ComponentDocs.Snapshot

open Json (Cursor)
open Mismatch (counted)

def ReadError.here {α : Type} (cursor : Cursor) (cause : Json.Cause) : Except ReadError α :=
  .error (.fault (cursor.fault cause))

def ReadError.next {α : Type} (cursor : Cursor) (cause : Json.Cause) : Except ReadError α :=
  .error (.fault (cursor.faultNext cause))

/-- Faults of the text as reading errors. -/
def lift {α : Type} : Except Json.Fault α → Except ReadError α
  | .ok value => .ok value
  | .error fault => .error (.fault fault)

/-- The error for a value of the wrong type at the cursor. A scalar is read first, and
its own faults come first. -/
def wrongValue (expected : String) (cursor : Cursor) : ReadError :=
  match Json.scalar? cursor with
  | some (.ok (json, _)) => .mismatch (.wrongType json expected)
  | some (.error fault) => .fault fault
  | none =>
    match cursor.rest with
    | [] => .fault (cursor.fault .endInValue)
    | '[' :: _ => .mismatch (.invalidType .list expected)
    | '{' :: _ => .mismatch (.invalidType .object expected)
    | _ => .fault (cursor.faultNext .expectedValue)

/-- Enters a list or an object: one level less is left. -/
def enter (levels : Nat) (cursor : Cursor) : Except ReadError (Nat × Cursor) :=
  match levels with
  | 0 => ReadError.next cursor .tooDeep
  | levels + 1 => .ok (levels, cursor.next)

/-- A text at the cursor, or the error for something else. -/
def textAt (cursor : Cursor) : Except ReadError (String × Cursor) :=
  match cursor.rest with
  | '\"' :: _ => lift (Json.readString cursor.next)
  | _ => .error (wrongValue "a string" cursor)

/-- The key at the cursor. -/
def keyAt (cursor : Cursor) : Except ReadError (String × Cursor) :=
  match cursor.rest with
  | [] => ReadError.here cursor .endInValue
  | '\"' :: _ => lift (Json.readString cursor.next)
  | _ => ReadError.next cursor .keyNotString

/-- A word: a text, or an object whose one key is the word, with `null` beside it. -/
def choiceOfText {α : Type} (options : List (String × α)) (levels : Nat) (cursor : Cursor) :
    Except ReadError (α × Cursor) := do
  let cursor := cursor.skipBlank
  match cursor.rest with
  | [] => ReadError.here cursor .endInValue
  | '\"' :: _ =>
    let (name, cursor) ← lift (Json.readString cursor.next)
    return (← (optionNamed options name).mapError .mismatch, cursor)
  | '{' :: _ =>
    let (_, cursor) ← enter levels cursor
    let (name, cursor) ← keyAt cursor.skipBlank
    let value ← (optionNamed options name).mapError .mismatch
    let cursor ← lift (Json.readColon cursor)
    let cursor := cursor.skipBlank
    match cursor.rest with
    | 'n' :: _ =>
      let cursor ← lift (Json.readLiteral ['u', 'l', 'l'] cursor.next)
      let cursor := cursor.skipBlank
      match cursor.rest with
      | [] => ReadError.here cursor .endInObject
      | '}' :: _ => return (value, cursor.next)
      | _ => ReadError.here cursor .expectedValue
    | _ => throw (wrongValue "unit" cursor)
  | _ => ReadError.next cursor .expectedValue

mutual

def Shape.ofText : {α : Type} → Shape α → Nat → Cursor → Except ReadError (α × Cursor)
  | _, .text, _, cursor => textAt cursor.skipBlank
  | _, .flag, _, cursor => do
    let cursor := cursor.skipBlank
    match cursor.rest with
    | 't' :: _ => return (true, ← lift (Json.readLiteral ['r', 'u', 'e'] cursor.next))
    | 'f' :: _ => return (false, ← lift (Json.readLiteral ['a', 'l', 's', 'e'] cursor.next))
    | _ => throw (wrongValue "a boolean" cursor)
  | _, .count, _, cursor => do
    let cursor := cursor.skipBlank
    match Json.scalar? cursor with
    | some (.ok (.number value, cursor)) => return (← (countOfNumber value).mapError .mismatch, cursor)
    | _ => throw (wrongValue "u32" cursor)
  | _, .choice options, levels, cursor => choiceOfText options levels cursor
  | _, .optional shape, levels, cursor => do
    let cursor := cursor.skipBlank
    match cursor.rest with
    | 'n' :: _ => return (none, ← lift (Json.readLiteral ['u', 'l', 'l'] cursor.next))
    | _ =>
      let (value, cursor) ← shape.ofText levels cursor
      return (some value, cursor)
  | _, .list shape, levels, cursor => do
    let cursor := cursor.skipBlank
    match cursor.rest with
    | '[' :: _ =>
      let (levels, cursor) ← enter levels cursor
      let (items, cursor) ← Json.listOf .fault
        (fun items cursor => do
          let (item, cursor) ← shape.ofText levels cursor
          return (item :: items, cursor))
        [] cursor
      return (items.reverse, cursor)
    | _ => throw (wrongValue "a sequence" cursor)
  | _, .table shape, levels, cursor => do
    let cursor := cursor.skipBlank
    match cursor.rest with
    | '{' :: _ =>
      let (levels, cursor) ← enter levels cursor
      let (entries, cursor) ← Json.membersOf .fault
        (fun key entries cursor => do
          let cursor ← lift (Json.readColon cursor)
          let (value, cursor) ← shape.ofText levels cursor
          return ((key, value) :: entries, cursor))
        [] cursor
      return (entries.reverse, ← lift (Json.endObject cursor))
    | _ => throw (wrongValue "a map" cursor)
  | _, .record name fields, levels, cursor => do
    let cursor := cursor.skipBlank
    match cursor.rest with
    | '{' :: _ =>
      let (levels, cursor) ← enter levels cursor
      let (slots, cursor) ← Json.membersOf .fault
        (fun key slots cursor =>
          match fields.fillFromText levels key slots cursor with
          | some reading => reading
          | none => do
            let cursor ← lift (Json.readColon cursor)
            return (slots, ← lift (Json.skipValue cursor)))
        fields.blank cursor
      let values ← (fields.finish slots).mapError fun missing => .mismatch (.missingField missing)
      return (values, ← lift (Json.endObject cursor))
    | '[' :: _ =>
      let (levels, cursor) ← enter levels cursor
      let (values, cursor) ←
        fields.ofTextItems ("struct " ++ name ++ " with " ++ counted fields.size) 0 levels cursor
      return (values, ← lift (Json.endList cursor))
    | _ => throw (wrongValue ("struct " ++ name) cursor)
  | _, .kinds name tag cases, levels, cursor => do
    let (json, cursor) ← lift (Json.readValue id levels cursor)
    return (← ((Shape.kinds name tag cases).ofJson .parsed json).mapError .mismatch, cursor)
  | _, .extended name fields tag cases, levels, cursor => do
    let cursor := cursor.skipBlank
    match cursor.rest with
    | '{' :: _ =>
      let (levels, cursor) ← enter levels cursor
      let ((slots, setAside), cursor) ← Json.membersOf .fault
        (fun key (slots, setAside) cursor =>
          match fields.fillFromText levels key slots cursor with
          | some reading => do
            let (slots, cursor) ← reading
            return ((slots, setAside), cursor)
          | none => do
            let cursor ← lift (Json.readColon cursor)
            let (json, cursor) ← lift (Json.readValue id levels cursor)
            return ((slots, (key, json) :: setAside), cursor))
        (fields.blank, []) cursor
      let values ← (fields.finish slots).mapError fun missing => .mismatch (.missingField missing)
      let (case, others) ←
        (caseOfMembers .setAside tag cases.names setAside.reverse).mapError .mismatch
      let value ← (cases.ofJson tag case (.object others)).mapError .mismatch
      return ((values, value), ← lift (Json.endObject cursor))
    | _ => throw (wrongValue ("struct " ++ name) cursor)
  | _, .convert build shape, levels, cursor => do
    let (value, cursor) ← shape.ofText levels cursor
    return (build value, cursor)

/-- Reads the value of a known field into its slot, with the cursor behind the key. A
key that comes again is refused before its value is looked at. -/
def Fields.fillFromText : {σ β : Type} → Fields σ β → Nat → String → σ → Cursor →
    Option (Except ReadError (σ × Cursor))
  | _, _, .nil, _, _, _, _ => none
  | _, _, .cons name shape _ more, levels, key, (slot, slots), cursor =>
    if key = name then
      some <|
        match slot with
        | some _ => .error (.mismatch (.duplicateField name))
        | none => do
          let cursor ← lift (Json.readColon cursor)
          let (value, cursor) ← shape.ofText levels cursor
          return ((some value, slots), cursor)
    else
      (more.fillFromText levels key slots cursor).map fun reading =>
        reading.map fun (slots, cursor) => ((slot, slots), cursor)

/-- Reads the fields from the items of a list, in order, as far as the list goes. -/
def Fields.ofTextItems : {σ β : Type} → Fields σ β → String → Nat → Nat → Cursor →
    Except ReadError (β × Cursor)
  | _, _, .nil, _, _, _, cursor => .ok ((), cursor)
  | _, _, .cons _ shape default more, expected, read, levels, cursor => do
    match ← lift (Json.nextItem (read == 0) cursor) with
    | (true, cursor) =>
      let (value, cursor) ← shape.ofText levels cursor
      let (values, cursor) ← more.ofTextItems expected (read + 1) levels cursor
      return ((value, values), cursor)
    | (false, cursor) =>
      match default with
      | none => throw (.mismatch (.invalidLength read expected))
      | some value =>
        let (values, cursor) ← more.ofTextItems expected (read + 1) levels cursor
        return ((value, values), cursor)

end

/-- Reads a whole text. -/
def Shape.parse {α : Type} (shape : Shape α) (text : String) : Except ReadError α := do
  let (value, cursor) ← shape.ofText Json.nestingLimit (.ofText text)
  lift (Json.finish cursor)
  return value

end ComponentDocs.Snapshot
