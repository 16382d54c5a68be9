import ComponentDocs.Expression.Basic

/-! Values that a directive of a filter may ask of a field: numbers, truth values and
regular expressions. -/
namespace ComponentDocs.Log

/-- Nothing, or an exponent. -/
def isExponent : List Char → Bool
  | [] => true
  | c :: rest =>
    let digits := match rest with
      | '+' :: digits => digits
      | '-' :: digits => digits
      | digits => digits
    (c = 'e' || c = 'E') && !digits.isEmpty && digits.all Char.isDigit

/-- Digits with a point anywhere, or none, and an exponent. -/
def isDecimal (text : List Char) : Bool :=
  let whole := text.takeWhile Char.isDigit
  match text.dropWhile Char.isDigit with
  | '.' :: rest =>
    !(whole.isEmpty && (rest.takeWhile Char.isDigit).isEmpty) &&
      isExponent (rest.dropWhile Char.isDigit)
  | rest => !whole.isEmpty && isExponent rest

/-- A number with or without a sign; some are not finite, or none at all. -/
def isNumber (text : List Char) : Bool :=
  let unsigned := match text with
    | '+' :: unsigned => unsigned
    | '-' :: unsigned => unsigned
    | unsigned => unsigned
  isDecimal unsigned ||
    ["inf", "infinity", "nan"].contains (String.ofList (unsigned.map Char.toLower))

/-- Truth values are expressions as well, and so are numbers without a plus sign. -/
def isValue (text : List Char) : Bool := isNumber text || Expression.isExpression text

end ComponentDocs.Log
