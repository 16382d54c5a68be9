import ComponentDocs.Expression.Mode

/-! Signs of a regular expression that stand for one character or for a place between two. -/
namespace ComponentDocs.Expression

inductive Sign
  /-- A character: itself, or with `asByte` the byte of that number. -/
  | character (c : Char) (asByte : Bool)
  /-- Digits, blanks or characters of words, or all characters but these. -/
  | kind (negated : Bool)
  | anyCharacter
  /-- The beginning or end of a text or line. -/
  | edge
  | wordEdge
deriving DecidableEq

namespace Sign

/-- Whether a sign can be matched. Kinds, cases and words of Unicode are unknown here.
Without Unicode, a sign must not match a part of a character. -/
def isKnown (mode : Mode) : Sign → Bool
  | .character c asByte =>
    if mode.has .unicode then !mode.has .caseless else !asByte || c.toNat < 128
  | .kind negated => !mode.has .unicode && !negated
  | .anyCharacter => mode.has .unicode
  | .edge => true
  | .wordEdge => !mode.has .unicode

/-- The same of a sign within a set, which without Unicode is one of bytes. -/
def isMember (mode : Mode) : Sign → Bool
  | .character c _ => if mode.has .unicode then !mode.has .caseless else c.toNat < 128
  | .kind negated => !mode.has .unicode && !negated
  | _ => false

end Sign

/-- The value of a hexadecimal digit. -/
def hexValue? (c : Char) : Option Nat :=
  if c.isDigit then some (c.toNat - '0'.toNat)
  else if 'a' ≤ c && c ≤ 'f' then some (c.toNat - 'a'.toNat + 10)
  else if 'A' ≤ c && c ≤ 'F' then some (c.toNat - 'A'.toNat + 10)
  else none

/-- Reads some number of hexadecimal digits. -/
def readHex (mode : Mode) : Nat → Nat → List Char → Option (Nat × List Char)
  | 0, value, text => some (value, text)
  | count + 1, value, text =>
    match mode.skip text with
    | [] => none
    | c :: rest =>
      match hexValue? c with
      | none => none
      | some digit => readHex mode count (value * 16 + digit) rest

/-- A character by its code point. -/
def characterOf? (value : Nat) : Option Char :=
  if value < 0xD800 || (0xDFFF < value && value < 0x110000) then some (Char.ofNat value) else none

/-- Reads a character that is given by the digits of its code point. -/
def readCodePoint (mode : Mode) (digits : Nat) (text : List Char) : Option (Sign × List Char) := do
  let (value, rest) ← readHex mode digits 0 text
  let c ← characterOf? value
  return (.character c (digits = 2), rest)

/-- Reads what stands behind a backslash. Letters and digits have meanings of their own
or none; other characters of the first 128 stand for themselves. -/
def readEscape (mode : Mode) : List Char → Option (Sign × List Char)
  | [] => none
  | 'x' :: rest => readCodePoint mode 2 rest
  | 'u' :: rest => readCodePoint mode 4 rest
  | 'U' :: rest => readCodePoint mode 8 rest
  | 'a' :: rest => some (.character '\x07' false, rest)
  | 'f' :: rest => some (.character '\x0c' false, rest)
  | 't' :: rest => some (.character '\t' false, rest)
  | 'n' :: rest => some (.character '\n' false, rest)
  | 'r' :: rest => some (.character '\r' false, rest)
  | 'v' :: rest => some (.character '\x0b' false, rest)
  | c :: rest =>
    if c = 'd' || c = 's' || c = 'w' then some (.kind false, rest)
    else if c = 'D' || c = 'S' || c = 'W' then some (.kind true, rest)
    else if c = 'A' || c = 'z' then some (.edge, rest)
    else if c = 'b' || c = 'B' || c = '<' || c = '>' then some (.wordEdge, rest)
    else if c.isAlphanum || 128 ≤ c.toNat then none
    else some (.character c false, rest)

end ComponentDocs.Expression
