import ComponentDocs.Log.Event
import ComponentDocs.Log.Value
import ComponentDocs.Text.Blank
import ComponentDocs.Text.Natural
import ComponentDocs.Text.Split

/-! Filters: which events a log shows. A filter is a list of directives in text form,
such as `warn,store::cache=debug`, and the most specific one about an event decides. -/
namespace ComponentDocs.Log

/-- What passes: nothing, or every level up to one. -/
inductive Threshold
  | off
  | upTo (level : Level)
deriving DecidableEq

namespace Threshold

def admits (level : Level) : Threshold → Bool
  | .off => false
  | .upTo most => level.verbosity ≤ most.verbosity

def ofNat? : Nat → Option Threshold
  | 0 => some .off
  | 1 => some (.upTo .error)
  | 2 => some (.upTo .warn)
  | 3 => some (.upTo .info)
  | 4 => some (.upTo .debug)
  | 5 => some (.upTo .trace)
  | _ => none

/-- A number, the name of a level or `off`, in letters of either case. -/
def ofText? (text : String) : Option Threshold :=
  match Text.natural text with
  | .ok value => ofNat? value
  | .error _ =>
    let upper := text.map Char.toUpper
    if upper = "OFF" then some .off else (Vocabulary.parse? upper).map .upTo

end Threshold

/-- What passes of the events whose target begins with `target` and that have all of
`fields`. A directive may instead be about spans or about values of fields; there are
no spans here, so such a one is about no event. -/
structure Directive where
  target : Option String := none
  fields : List String := []
  ofSpans : Bool := false
  threshold : Threshold := .upTo .trace
deriving DecidableEq

namespace Directive

def concerns (event : Event) (directive : Directive) : Bool :=
  !directive.ofSpans &&
    (match directive.target with
      | none => true
      | some target => target.toList.isPrefixOf event.target.toList) &&
    directive.fields.all fun field => event.fieldNames.contains field

/-- Longer targets are more specific, and any target more than none; then more fields
are. The order of the texts settles what is left. -/
instance : Ord Directive :=
  ⟨compareLex (compareOn fun directive => directive.target.map String.utf8ByteSize)
    (compareLex (compareOn fun directive => directive.fields.length)
      (compareLex (compareOn target) (compareOn fields)))⟩

/-- Which section of a directive is being read, and where it begins. -/
inductive Stage
  | start
  | word (first : Nat)
  | span (first : Nat)
  | field (first : Nat)
  | fieldsClosed
  | spanClosed
  | level (first : Nat)

/-- The part of a text from one byte up to another, if both are where characters begin. -/
def slice? (text : String) (first behind : Nat) : Option String :=
  String.fromUTF8? (text.toUTF8.extract first behind)

/-- Adds a field: a name, or a name and behind an equals sign a value. What stands behind
another equals sign is not looked at. -/
def withField (text : String) (directive : Directive) : Option Directive :=
  if text.isEmpty then none
  else
    match Text.cut '=' text.toList with
    | (name, []) =>
      some { directive with fields := directive.fields ++ [String.ofList name] }
    | (name, value :: _) =>
      if Log.isValue value then
        some { directive with
          fields := directive.fields ++ [String.ofList name]
          ofSpans := true }
      else none

/-- Takes in the character at a byte. -/
def advance (text : String) (position : Nat) (c : Char) :
    Stage → Directive → Option (Stage × Directive)
  | .start, directive =>
    if c = '[' then some (.span (position + 1), directive)
    else if c = '-' || c = ':' || c = '_' || Text.isAlphanumeric c then
      some (.word position, directive)
    else none
  | .word first, directive =>
    if c = '=' then
      (slice? text first position).map fun target =>
        (.level (position + 1), { directive with target })
    else if c = '[' then
      (slice? text first position).map fun target =>
        (.span (position + 1), { directive with target })
    else some (.word first, directive)
  | .span first, directive =>
    if c = ']' then
      (slice? text first position).map fun _ => (.spanClosed, { directive with ofSpans := true })
    else if c = '{' then
      (slice? text first position).map fun span =>
        (.field (position + 1), { directive with ofSpans := !span.isEmpty })
    else some (.span first, directive)
  | .field first, directive =>
    if c = '}' then
      ((slice? text first position).bind directive.withField).map fun directive =>
        (.fieldsClosed, directive)
    else some (.field first, directive)
  | .fieldsClosed, directive => if c = ']' then some (.spanClosed, directive) else none
  | .spanClosed, directive =>
    if c = '=' then some (.level (position + 1), directive) else none
  | .level first, directive => some (.level first, directive)

def advanceAll (text : String) : Nat → List Char → Stage → Directive →
    Option (Stage × Directive)
  | _, [], stage, directive => some (stage, directive)
  | position, c :: rest, stage, directive =>
    (advance text position c stage directive).bind fun (stage, directive) =>
      advanceAll text (position + c.utf8Size) rest stage directive

/-- Reads a directive: `target[span{field}]=level`, each section optional. A word alone
is a level if it can be, else a target. Blanks around the text are not looked at, but
positions are bytes from its beginning. -/
def ofText? (text : String) : Option Directive := do
  let (stage, directive) ← advanceAll text 0 (Text.trim text.toList) .start {}
  match stage with
  | .word first =>
    let word ← slice? text first text.utf8ByteSize
    match Threshold.ofText? word with
    | some threshold => some { directive with threshold }
    | none => some { directive with target := some word }
  | .level first =>
    let word ← slice? text first text.utf8ByteSize
    if word.isEmpty then some directive
    else (Threshold.ofText? word).map fun threshold => { directive with threshold }
  | .spanClosed => some directive
  | _ => none

end Directive

structure Filter where
  directives : List Directive
deriving DecidableEq

namespace Filter

/-- Every event up to a level. -/
def upTo (level : Level) : Filter := ⟨[{ threshold := .upTo level }]⟩

/-- Directives between commas; if there are none, errors pass. -/
def ofText? (text : String) : Option Filter :=
  let pieces := (Text.split ',' text.toList).filter fun piece => !piece.isEmpty
  match pieces.mapM fun piece => Directive.ofText? (String.ofList piece) with
  | none => none
  | some [] => some (upTo .error)
  | some directives => some ⟨directives⟩

/-- The most specific directive about an event; of equally specific ones the last. -/
def decisive? (event : Event) (filter : Filter) : Option Directive :=
  (filter.directives.filter fun directive => directive.concerns event).foldl
    (fun
      | none, directive => some directive
      | some best, directive => if (compare best directive).isLE then some directive else some best)
    none

def admits (filter : Filter) (event : Event) : Bool :=
  match filter.decisive? event with
  | some directive => directive.threshold.admits event.level
  | none => false

end Filter

end ComponentDocs.Log
