import ComponentDocs.Snapshot.Mismatch
import ComponentDocs.Snapshot.Shape

/-! Reading a JSON value under a shape. Members are read in the order of the object,
and the first mismatch is the one reported. -/
namespace ComponentDocs.Snapshot

/-- Where a value comes from: from a parsed text, or from the members that a tagged
object set aside until its case was known. Values set aside are read a little more
leniently, and report lists of a wrong length in other words. -/
inductive Origin
  | parsed
  | setAside
deriving DecidableEq

open Mismatch (wrongType counted)

def optionNamed {α : Type} (options : List (String × α)) (name : String) : Except Mismatch α :=
  match options.find? fun option => option.1 == name with
  | some option => .ok option.2
  | none => .error (.unknownVariant name (options.map Prod.fst))

/-- The value beside a word that is written as an object with one member must be empty. -/
def checkUnit (origin : Origin) : Json → Except Mismatch Unit
  | .null => .ok ()
  | .object [] => if origin = .setAside then .ok () else .error (wrongType (.object []) "unit")
  | other => .error (wrongType other "unit")

/-- A word: a text, or an object whose one key is the word. -/
def choiceOfJson {α : Type} (origin : Origin) (options : List (String × α)) :
    Json → Except Mismatch α
  | .string name => optionNamed options name
  | .object [(name, content)] =>
    match optionNamed options name with
    | .error mismatch => .error mismatch
    | .ok value =>
      match checkUnit origin content with
      | .ok () => .ok value
      | .error mismatch => .error mismatch
  | .object _ => .error (.invalidValue .object "map with a single key")
  | other => .error (wrongType other "string or map")

/-- The greatest count: counts have 32 bits. -/
def countLimit : Nat := Nat.pow 2 32 - 1

def countOfNumber : Json.Number → Except Mismatch UInt32
  | .natural value =>
    if value ≤ countLimit then .ok (.ofNat value)
    else .error (.invalidValue (.number (.natural value)) "u32")
  | .negative magnitude => .error (.invalidValue (.number (.negative magnitude)) "u32")
  | .float bits => .error (.invalidType (.number (.float bits)) "u32")

/-- The case that a tag names. Among values set aside a case may also be given by its
position. -/
def tagOfJson (origin : Origin) (names : List String) : Json → Except Mismatch String
  | .string name => if name ∈ names then .ok name else .error (.unknownVariant name names)
  | .number (.natural position) =>
    if origin = .setAside then
      match names[position]? with
      | some name => .ok name
      | none =>
        .error (.invalidValue (.number (.natural position))
          ("variant index 0 <= i < " ++ toString names.length))
    else .error (wrongType (.number (.natural position)) "variant identifier")
  | other => .error (wrongType other "variant identifier")

/-- The members of a tagged object that give its tag, and the others. -/
def splitTag (tag : String) (members : Json.Members) : List Json × Json.Members :=
  ((members.filter fun member => member.1 == tag).map Prod.snd,
    members.filter fun member => !(member.1 == tag))

/-- The case of an object, and the members beside its tag. -/
def caseOfMembers (origin : Origin) (tag : String) (names : List String)
    (members : Json.Members) : Except Mismatch (String × Json.Members) :=
  match splitTag tag members with
  | ([], _) => .error (.missingField tag)
  | (first :: repeated, others) =>
    match tagOfJson origin names first with
    | .error mismatch => .error mismatch
    | .ok name =>
      if repeated.isEmpty then .ok (name, others) else .error (.duplicateField tag)

/-- What is left of a list when all fields of a record have been read from it. -/
def checkRest (origin : Origin) (size : Nat) (rest : List Json) : Except Mismatch Unit :=
  if rest.isEmpty then .ok ()
  else .error (.invalidLength (size + rest.length)
    (match origin with
      | .parsed => "fewer elements in array"
      | .setAside => counted size ++ " in sequence"))

/-- A plain case takes any members, but no items. -/
def checkPlain : Json → Except Mismatch Unit
  | .array items => checkRest .setAside 0 items
  | _ => .ok ()

mutual

def Shape.ofJson : {α : Type} → Shape α → Origin → Json → Except Mismatch α
  | _, .text, _, json =>
    match json with
    | .string value => .ok value
    | other => .error (wrongType other "a string")
  | _, .flag, _, json =>
    match json with
    | .bool value => .ok value
    | other => .error (wrongType other "a boolean")
  | _, .count, _, json =>
    match json with
    | .number value => countOfNumber value
    | other => .error (wrongType other "u32")
  | _, .choice options, origin, json => choiceOfJson origin options json
  | _, .optional shape, origin, json =>
    match json with
    | .null => .ok none
    | other => (shape.ofJson origin other).map some
  | _, .list shape, origin, json =>
    match json with
    | .array items => items.mapM (shape.ofJson origin)
    | other => .error (wrongType other "a sequence")
  | _, .table shape, origin, json =>
    match json with
    | .object members =>
      members.mapM fun member => (shape.ofJson origin member.2).map fun value => (member.1, value)
    | other => .error (wrongType other "a map")
  | _, .record name fields, origin, json =>
    match json with
    | .object members =>
      match members.foldlM (fun slots member => fields.fill origin member.1 member.2 slots)
          fields.blank with
      | .error mismatch => .error mismatch
      | .ok slots => (fields.finish slots).mapError .missingField
    | .array items =>
      match fields.ofItems origin ("struct " ++ name ++ " with " ++ counted fields.size) 0 items with
      | .error mismatch => .error mismatch
      | .ok (values, rest) => (checkRest origin fields.size rest).map fun () => values
    | other => .error (wrongType other ("struct " ++ name))
  | _, .kinds name tag cases, origin, json =>
    match json with
    | .object members =>
      match caseOfMembers origin tag cases.names members with
      | .error mismatch => .error mismatch
      | .ok (case, others) => cases.ofJson tag case (.object others)
    | .array [] => .error (.missingField tag)
    | .array (first :: items) =>
      match tagOfJson origin cases.names first with
      | .error mismatch => .error mismatch
      | .ok case => cases.ofJson tag case (.array items)
    | other => .error (wrongType other ("internally tagged enum " ++ name))
  | _, .extended name fields tag cases, origin, json =>
    match json with
    | .object members =>
      match members.foldlM (fun slots member => fields.fill origin member.1 member.2 slots)
          fields.blank with
      | .error mismatch => .error mismatch
      | .ok slots =>
        match fields.finish slots with
        | .error missing => .error (.missingField missing)
        | .ok values =>
          match caseOfMembers .setAside tag cases.names
              (members.filter fun member => !fields.has member.1) with
          | .error mismatch => .error mismatch
          | .ok (case, others) =>
            (cases.ofJson tag case (.object others)).map fun value => (values, value)
    | other => .error (wrongType other ("struct " ++ name))
  | _, .convert build shape, origin, json => (shape.ofJson origin json).map build

/-- Reads a member into the slot of its field. A field is filled once; a member that
is no field changes nothing. -/
def Fields.fill : {σ β : Type} → Fields σ β → Origin → String → Json → σ → Except Mismatch σ
  | _, _, .nil, _, _, _, () => .ok ()
  | _, _, .cons name shape _ more, origin, key, json, (slot, slots) =>
    if key = name then
      match slot with
      | some _ => .error (.duplicateField name)
      | none => (shape.ofJson origin json).map fun value => (some value, slots)
    else (more.fill origin key json slots).map fun slots => (slot, slots)

/-- Reads the fields from the first items of a list, in order, and returns the items
that are left. `expected` describes the whole record, `read` counts the items before. -/
def Fields.ofItems : {σ β : Type} → Fields σ β → Origin → String → Nat → List Json →
    Except Mismatch (β × List Json)
  | _, _, .nil, _, _, _, items => .ok ((), items)
  | _, _, .cons _ shape default more, origin, expected, read, items =>
    match items with
    | [] =>
      match default with
      | none => .error (.invalidLength read expected)
      | some value =>
        (more.ofItems origin expected (read + 1) []).map fun (values, rest) => ((value, values), rest)
    | item :: items =>
      match shape.ofJson origin item with
      | .error mismatch => .error mismatch
      | .ok value =>
        (more.ofItems origin expected (read + 1) items).map fun (values, rest) => ((value, values), rest)

/-- The key names a field. -/
def Fields.has : {σ β : Type} → Fields σ β → String → Bool
  | _, _, .nil, _ => false
  | _, _, .cons name _ _ more, key => key == name || more.has key

/-- Reads what was set aside as the named case. -/
def Cases.ofJson : {α : Type} → Cases α → String → String → Json → Except Mismatch α
  | _, .nil, tag, _, _ => .error (.missingField tag)
  | _, .plain name value more, tag, case, json =>
    if case = name then (checkPlain json).map fun () => value else more.ofJson tag case json
  | _, .shaped name shape build more, tag, case, json =>
    if case = name then (shape.ofJson .setAside json).map build else more.ofJson tag case json

end

end ComponentDocs.Snapshot
