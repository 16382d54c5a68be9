/-! Control sequences: what a text tells a terminal to do instead of showing it. A text
for anything but a terminal goes without them. -/
namespace ComponentDocs.Text

/-- Where a text stands: among characters to show, or within a sequence. -/
inductive ControlState
  | ground
  | escape
  /-- Behind an escape and a character that has others follow. -/
  | escapeMore
  /-- In a sequence with parameters, which ends with a letter or the like. -/
  | parameters
  /-- In the head of a device string: nothing of it, numbers, or marks behind them. -/
  | deviceHead
  | deviceNumbers
  | deviceMarks
  /-- In a string for a device or an application. -/
  | string
  /-- In a command for the system the terminal runs on. -/
  | command
deriving DecidableEq

/-- Breaks of lines and columns, which stay in a text unlike other controls. -/
def isBreak (c : Char) : Bool := c = '\t' || c = '\n' || c = '\x0c' || c = '\r'

/-- What a terminal shows when no sequence is open. -/
def isShown (c : Char) : Bool := isBreak c || (32 ≤ c.toNat && c.toNat ≠ 127)

/-- Whether the UTF-8 form of a character has the byte that ends a string. -/
def endsString (c : Char) : Bool := c.toString.toUTF8.toList.contains 0x9c

namespace ControlState

/-- The state behind a character that belongs to a sequence. Cancelling and a new
escape leave every sequence. -/
def next (state : ControlState) (c : Char) : ControlState :=
  let code := c.toNat
  if code = 0x1b then .escape
  else if code = 0x18 || code = 0x1a then .ground
  else
    match state with
    | .ground => .ground
    | .escape =>
      if code < 0x20 || 0x7e < code then .escape
      else if code < 0x30 then .escapeMore
      else if c = '[' then .parameters
      else if c = ']' then .command
      else if c = 'P' then .deviceHead
      else if c = 'X' || c = '^' || c = '_' then .string
      else .ground
    | .escapeMore => if 0x30 ≤ code && code ≤ 0x7e then .ground else .escapeMore
    | .parameters => if 0x40 ≤ code && code ≤ 0x7e then .ground else .parameters
    | .deviceHead =>
      if code < 0x20 || 0x7e < code then .deviceHead
      else if code < 0x30 then .deviceMarks
      else if code < 0x40 then .deviceNumbers
      else .string
    | .deviceNumbers =>
      if code < 0x20 || 0x7e < code then .deviceNumbers
      else if code < 0x30 then .deviceMarks
      else if code < 0x3c then .deviceNumbers
      else .string
    | .deviceMarks =>
      if code < 0x20 || 0x7e < code then .deviceMarks
      else if code < 0x30 then .deviceMarks
      else .string
    | .string => if endsString c then .ground else .string
    | .command => if code = 0x07 then .ground else .command

/-- Whether a character shows in a state: within some sequences breaks do. -/
def shows (state : ControlState) (c : Char) : Bool :=
  match state with
  | .ground => isShown c
  | .escape | .escapeMore | .parameters => isBreak c
  | _ => false

end ControlState

/-- What is left of a text. A break within a sequence lets the text show up to the next
control; behind that the sequence goes on, unless a character beyond the first 128 came. -/
def shownFrom : ControlState → Bool → List Char → List Char
  | _, _, [] => []
  | state, showing, c :: rest =>
    if (if showing then ControlState.ground else state).shows c then
      c :: shownFrom (if c.toNat < 128 then state else .ground) true rest
    else shownFrom (state.next c) false rest

/-- A text without its control sequences. -/
def withoutControls (text : String) : String :=
  String.ofList (shownFrom .ground false text.toList)

/-- A text between a sequence that sets it off from its surroundings and the one that
ends this. -/
def setOff (style text : String) : String := "\x1b[" ++ style ++ "m" ++ text ++ "\x1b[0m"

end ComponentDocs.Text
