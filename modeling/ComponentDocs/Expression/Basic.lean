import ComponentDocs.Expression.CharacterSet
import ComponentDocs.Text.Alphanumeric

/-! Regular expressions: which texts are ones that can be matched. -/
namespace ComponentDocs.Expression

/-- A part of an expression: the depth to which its own parts are nested, and whether a
sign of repetition may follow it. -/
structure Part where
  depth : Nat := 0
  repeatable : Bool := true
deriving DecidableEq

/-- Alternatives: the depths of those that are complete, and the parts of the last one, of
which the last stands first. -/
structure Alternatives where
  complete : List Nat := []
  parts : List Part := []
deriving DecidableEq

namespace Alternatives

def lastDepth (alternatives : Alternatives) : Nat :=
  rowDepth (alternatives.parts.map Part.depth)

def depth (alternatives : Alternatives) : Nat :=
  rowDepth (alternatives.lastDepth :: alternatives.complete)

def add (part : Part) (alternatives : Alternatives) : Alternatives :=
  { alternatives with parts := part :: alternatives.parts }

/-- Begins another alternative. -/
def fork (alternatives : Alternatives) : Alternatives where
  complete := alternatives.lastDepth :: alternatives.complete

/-- Repeats the last part. -/
def again? (alternatives : Alternatives) : Option Alternatives :=
  match alternatives.parts with
  | [] => none
  | part :: parts =>
    if part.repeatable then some { alternatives with parts := { depth := part.depth + 1 } :: parts }
    else none

end Alternatives

/-- An expression that is being read: within a group, also the mode and the alternatives
around it, the innermost group first. Names of groups are not given twice. -/
structure Reading where
  mode : Mode := {}
  alternatives : Alternatives := {}
  outer : List (Mode × Alternatives) := []
  names : List String := []

namespace Reading

def add (part : Part) (reading : Reading) : Reading :=
  { reading with alternatives := reading.alternatives.add part }

def addSign (sign : Sign) (reading : Reading) : Option Reading :=
  if sign.isKnown reading.mode then some (reading.add {}) else none

def openGroup (mode : Mode) (reading : Reading) : Reading where
  mode
  outer := (reading.mode, reading.alternatives) :: reading.outer
  names := reading.names

def closeGroup? (reading : Reading) : Option Reading :=
  match reading.outer with
  | [] => none
  | (mode, alternatives) :: outer =>
    let group : Part := { depth := reading.alternatives.depth + 1 }
    some { mode, alternatives := alternatives.add group, outer, names := reading.names }

end Reading

/-- The letters of a name begin with an underscore or a letter. -/
def isGroupName : List Char → Bool
  | [] => false
  | c :: rest =>
    (c = '_' || Text.isAlphabetic c) &&
      rest.all fun c => c = '_' || c = '.' || c = '[' || c = ']' || Text.isAlphanumeric c

/-- Opens a group of which the name and all behind it are given. -/
def Reading.openNamed (text : List Char) (reading : Reading) : Option (Reading × List Char) :=
  let letters := text.takeWhile (· ≠ '>')
  let name := String.ofList letters
  match text.dropWhile (· ≠ '>') with
  | [] => none
  | _ :: rest =>
    if isGroupName letters && !reading.names.contains name then
      some ({ reading.openGroup reading.mode with names := name :: reading.names }, rest)
    else none

/-- Reads what stands behind an opening parenthesis: a name, flags for the rest of the
group around them, flags for a group, or at once the group. -/
def Reading.readGroup (text : List Char) (reading : Reading) : Option (Reading × List Char) :=
  match reading.mode.skip text with
  | '?' :: 'P' :: '<' :: rest => reading.openNamed rest
  | '?' :: '<' :: rest => reading.openNamed rest
  | '?' :: rest =>
    match FlagChange.read {} false rest with
    | none => none
    | some (change, ending, rest) =>
      let mode := reading.mode.change change
      if ending = ':' then some (reading.openGroup mode, rest)
      else if change.isEmpty then none
      else some ({ reading with mode }.add { repeatable := false }, rest)
  | rest => some (reading.openGroup reading.mode, rest)

/-- Reads one sign with all that belongs to it. Counts of repetitions are refused: they
stand in braces, and no value of a field has a closing one. -/
def Reading.step (c : Char) (rest : List Char) (reading : Reading) :
    Option (Reading × List Char) := do
  match c with
  | '(' => reading.readGroup rest
  | ')' => return (← reading.closeGroup?, rest)
  | '|' => return ({ reading with alternatives := reading.alternatives.fork }, rest)
  | '[' =>
    let rest ← openSet reading.mode rest
    let (depth, rest) ← readSet reading.mode (rest.length + 1) {} [] rest
    return (reading.add { depth := depth + 1 }, rest)
  | '{' => none
  | '\\' =>
    let (sign, rest) ← readEscape reading.mode rest
    return (← reading.addSign sign, rest)
  | '.' => return (← reading.addSign .anyCharacter, rest)
  | c =>
    if c = '^' || c = '$' then return (← reading.addSign .edge, rest)
    else if c = '?' || c = '*' || c = '+' then
      let alternatives ← reading.alternatives.again?
      return ({ reading with alternatives }, if rest.head? = some '?' then rest.tail else rest)
    else return (← reading.addSign (.character c false), rest)

/-- Reads to the end of a text. Each step takes a character, so that `fuel` is enough
which is no less than their number. -/
def Reading.run : Nat → Reading → List Char → Option Reading
  | 0, reading, text => if (reading.mode.skip text).isEmpty then some reading else none
  | fuel + 1, reading, text =>
    match reading.mode.skip text with
    | [] => some reading
    | c :: rest =>
      match reading.step c rest with
      | none => none
      | some (reading, rest) => run fuel reading rest

/-- How deep the parts of an expression may be nested. -/
def depthLimit : Nat := 250

/-- Whether a text is a regular expression that can be matched. -/
def isExpression (text : List Char) : Bool :=
  match Reading.run text.length {} text with
  | none => false
  | some reading => reading.outer.isEmpty && reading.alternatives.depth ≤ depthLimit

end ComponentDocs.Expression
