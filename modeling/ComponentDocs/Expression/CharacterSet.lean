import ComponentDocs.Expression.Sign

/-! Sets of characters in square brackets. Of a set that can be matched only the depth is
kept: how many brackets, operators and rows of items lie around its innermost item. -/
namespace ComponentDocs.Expression

/-- The depth of things in a row: a row of several is a level of its own. -/
def rowDepth : List Nat → Nat
  | [] => 0
  | [depth] => depth
  | depths => depths.foldl max 0 + 1

/-- A set that is being read: its items since the last operator, and what stands to the
left of that. At its beginning a minus is an item, and so is one closing bracket. -/
structure OpenSet where
  items : List Nat := []
  left : Option Nat := none
  fresh : Bool := true
deriving DecidableEq

namespace OpenSet

def depth (set : OpenSet) : Nat :=
  match set.left with
  | none => rowDepth set.items
  | some left => max left (rowDepth set.items) + 1

def add (depth : Nat) (set : OpenSet) : OpenSet :=
  { set with items := depth :: set.items, fresh := false }

/-- Begins the right side of an operator. -/
def operate (set : OpenSet) : OpenSet where
  left := some set.depth
  fresh := false

end OpenSet

def setNames : List String :=
  ["alnum", "alpha", "ascii", "blank", "cntrl", "digit", "graph", "lower", "print", "punct",
    "space", "upper", "word", "xdigit"]

/-- Reads the name of a set behind a bracket, as in `[:alpha:]` or, negated, `[:^alpha:]`. -/
def readSetName : List Char → Option (Bool × List Char)
  | ':' :: text =>
    let negated := text.head? = some '^'
    let text := if negated then text.tail else text
    match text.dropWhile (· ≠ ':') with
    | ':' :: ']' :: rest =>
      if setNames.contains (String.ofList (text.takeWhile (· ≠ ':'))) then some (negated, rest)
      else none
    | _ => none
  | _ => none

/-- Reads a sign within a set, where most characters stand for themselves. -/
def readMember (mode : Mode) : List Char → Option (Sign × List Char)
  | [] => none
  | '\\' :: rest => readEscape mode rest
  | c :: rest => some (.character c false, rest)

/-- Reads an item of a set: a member, or a range with a minus between its ends. Before a
bracket or another minus, a minus makes no range. -/
def readItem (mode : Mode) (text : List Char) : Option (List Char) := do
  let (first, rest) ← readMember mode text
  if !first.isMember mode then none
  else
    match mode.skip rest with
    | [] => none
    | '-' :: behind =>
      if mode.peek? behind = some ']' || mode.peek? behind = some '-' then
        return '-' :: behind
      let (last, rest) ← readMember mode (mode.skip behind)
      match first, last with
      | .character low _, .character high _ =>
        if low ≤ high && last.isMember mode then return rest else none
      | _, _ => none
    | rest => return rest

/-- What stands behind a bracket that opens a set. Without Unicode, the negation of a set
has bytes that are parts of characters. -/
def openSet (mode : Mode) (text : List Char) : Option (List Char) :=
  match mode.skip text with
  | '^' :: rest => if mode.has .unicode then some rest else none
  | rest => some rest

/-- Reads a set up to the bracket that closes it, each item with `fuel` to spare. The
sets around it are `outer`, the innermost first. -/
def readSet (mode : Mode) : Nat → OpenSet → List OpenSet → List Char → Option (Nat × List Char)
  | 0, _, _, _ => none
  | fuel + 1, set, outer, text =>
    match mode.skip text with
    | [] => none
    | c :: rest =>
      if set.fresh && (c = '-' || (c = ']' && set.items.isEmpty)) then
        if (Sign.character c false).isMember mode then
          readSet mode fuel { set.add 0 with fresh := c = '-' } outer rest
        else none
      else if c = ']' then
        match outer with
        | [] => some (set.depth, rest)
        | around :: outer => readSet mode fuel (around.add (set.depth + 1)) outer rest
      else if c = '[' then
        match readSetName rest with
        | some (negated, rest) =>
          if (if mode.has .unicode then mode.has .caseless else negated) then none
          else readSet mode fuel (set.add 0) outer rest
        | none =>
          match openSet mode rest with
          | none => none
          | some rest => readSet mode fuel {} (set :: outer) rest
      else if (c = '&' || c = '-' || c = '~') && rest.head? = some c then
        readSet mode fuel set.operate outer rest.tail
      else
        match readItem mode (c :: rest) with
        | none => none
        | some rest => readSet mode fuel (set.add 0) outer rest

end ComponentDocs.Expression
