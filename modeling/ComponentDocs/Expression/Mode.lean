import ComponentDocs.Text.Blank

/-! Modes of a regular expression: how the signs behind a flag are meant. -/
namespace ComponentDocs.Expression

inductive Flag
  | caseless
  | multiLine
  | dotMatchesAll
  | lazy
  | unicode
  | anyLineEnd
  | spaced
deriving DecidableEq

def Flag.ofLetter? : Char → Option Flag
  | 'i' => some .caseless
  | 'm' => some .multiLine
  | 's' => some .dotMatchesAll
  | 'U' => some .lazy
  | 'u' => some .unicode
  | 'R' => some .anyLineEnd
  | 'x' => some .spaced
  | _ => none

/-- Flags to raise and flags to lower. -/
structure FlagChange where
  raised : List Flag := []
  lowered : List Flag := []
deriving DecidableEq

namespace FlagChange

def isEmpty (change : FlagChange) : Bool := change.raised.isEmpty && change.lowered.isEmpty

/-- Reads flags up to the sign that ends them, which is handed back. No flag stands
twice. Flags behind a minus, of which there is at least one, are lowered. -/
def read (change : FlagChange) (lowering : Bool) :
    List Char → Option (FlagChange × Char × List Char)
  | [] => none
  | c :: rest =>
    if c = ')' || c = ':' then
      if lowering && change.lowered.isEmpty then none else some (change, c, rest)
    else if c = '-' then
      if lowering then none else read change true rest
    else
      match Flag.ofLetter? c with
      | none => none
      | some flag =>
        if change.raised.contains flag || change.lowered.contains flag then none
        else if lowering then read { change with lowered := flag :: change.lowered } true rest
        else read { change with raised := flag :: change.raised } false rest

end FlagChange

/-- The flags that are up. -/
structure Mode where
  flags : List Flag := [.unicode]
deriving DecidableEq

namespace Mode

def has (flag : Flag) (mode : Mode) : Bool := mode.flags.contains flag

def change (change : FlagChange) (mode : Mode) : Mode where
  flags := change.raised ++ mode.flags.filter fun flag => !change.lowered.contains flag

/-- Passes over blanks and comments: a comment goes from a hash sign to the end of its
line. -/
def skipComments : Bool → List Char → List Char
  | _, [] => []
  | true, c :: rest => skipComments (c ≠ '\n') rest
  | false, c :: rest =>
    if Text.isBlank c then skipComments false rest
    else if c = '#' then skipComments true rest
    else c :: rest

/-- Passes over what lies between signs, which is something in a spaced mode only. -/
def skip (mode : Mode) (text : List Char) : List Char :=
  if mode.has .spaced then skipComments false text else text

/-- The character after what lies between signs. In a spaced mode the first character of
a comment is taken for it. -/
def peek? (mode : Mode) (text : List Char) : Option Char :=
  if mode.has .spaced then
    match text.dropWhile Text.isBlank with
    | '#' :: rest => (rest.dropWhile Text.isBlank).head?
    | rest => rest.head?
  else text.head?

end Mode

end ComponentDocs.Expression
