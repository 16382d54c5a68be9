/-! Natural numbers of 64 bits in decimal digits, with an optional plus sign. -/
namespace ComponentDocs.Text

/-- Why a text is no such number. -/
inductive NaturalFault
  | empty
  | invalidDigit
  | tooLarge
deriving DecidableEq

def NaturalFault.message : NaturalFault → String
  | .empty => "cannot parse integer from empty string"
  | .invalidDigit => "invalid digit found in string"
  | .tooLarge => "number too large to fit in target type"

/-- The value of digits that follow a number. The first character at fault decides. -/
def digits (value : Nat) : List Char → Except NaturalFault Nat
  | [] => .ok value
  | c :: rest =>
    if c.isDigit then
      let next := value * 10 + (c.toNat - '0'.toNat)
      if next < Nat.pow 2 64 then digits next rest else .error .tooLarge
    else .error .invalidDigit

def natural (text : String) : Except NaturalFault Nat :=
  match text.toList with
  | [] => .error .empty
  | ['+'] => .error .invalidDigit
  | '+' :: rest => digits 0 rest
  | letters => digits 0 letters

end ComponentDocs.Text
