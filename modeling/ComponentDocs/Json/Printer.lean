import ComponentDocs.Json.Basic
import ComponentDocs.Json.Decimal

/-! The text of a JSON value, on one line or indented. Indentation adds blanks
and line feeds between tokens and nothing else; empty arrays and objects stay
on one line. -/
namespace ComponentDocs.Json

/-- A character inside a quoted text. Quotes, backslashes and controls are escaped,
everything else stands for itself. -/
def escapeChar (c : Char) : List Char :=
  if c = '\"' then ['\\', '\"']
  else if c = '\\' then ['\\', '\\']
  else if c = '\x08' then ['\\', 'b']
  else if c = '\x0c' then ['\\', 'f']
  else if c = '\n' then ['\\', 'n']
  else if c = '\r' then ['\\', 'r']
  else if c = '\t' then ['\\', 't']
  else if c.toNat < 32 then
    ['\\', 'u', '0', '0', Nat.digitChar (c.toNat / 16), Nat.digitChar (c.toNat % 16)]
  else [c]

def quote (text : String) : List Char :=
  '\"' :: (text.toList.flatMap escapeChar ++ ['\"'])

def Number.print : Number → List Char
  | .natural value => Nat.toDigits 10 value
  | .negative magnitude => '-' :: Nat.toDigits 10 magnitude
  | .float bits => if Decimal.isFinite bits then Decimal.text bits else ['n', 'u', 'l', 'l']

/-- What separates tokens: nothing, or line feeds with so many blanks per level. -/
abbrev Layout := Option Nat

/-- A new line at a level of nesting. -/
def Layout.line (layout : Layout) (level : Nat) : List Char :=
  match layout with
  | none => []
  | some width => '\n' :: List.replicate (width * level) ' '

def Layout.colon : Layout → List Char
  | none => [':']
  | some _ => [':', ' ']

mutual

def print (layout : Layout) (level : Nat) : Json → List Char
  | .null => ['n', 'u', 'l', 'l']
  | .bool true => ['t', 'r', 'u', 'e']
  | .bool false => ['f', 'a', 'l', 's', 'e']
  | .number value => value.print
  | .string text => quote text
  | .array [] => ['[', ']']
  | .array (item :: items) =>
    '[' :: (printItems layout (level + 1) (item :: items) ++ layout.line level ++ [']'])
  | .object [] => ['{', '}']
  | .object (member :: members) =>
    '{' :: (printMembers layout (level + 1) (member :: members) ++ layout.line level ++ ['}'])

def printItems (layout : Layout) (level : Nat) : List Json → List Char
  | [] => []
  | item :: [] => layout.line level ++ print layout level item
  | item :: next :: items =>
    layout.line level ++ print layout level item ++ ',' :: printItems layout level (next :: items)

def printMembers (layout : Layout) (level : Nat) : Members → List Char
  | [] => []
  | (key, value) :: [] =>
    layout.line level ++ quote key ++ layout.colon ++ print layout level value
  | (key, value) :: next :: members =>
    layout.line level ++ quote key ++ layout.colon ++ print layout level value ++
      ',' :: printMembers layout level (next :: members)

end

def render (layout : Layout) (value : Json) : String :=
  String.ofList (value.print layout 0)

/-- The text of a value on one line. -/
def compact (value : Json) : String := value.render none

end ComponentDocs.Json
