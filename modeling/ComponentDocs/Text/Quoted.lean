import ComponentDocs.Text.Printable

/-! Texts quoted for a message, so that every character of them can be seen. -/
namespace ComponentDocs.Text

/-- Quotes, backslashes and the common controls have short escapes; what does not
print is written by its code point. -/
def showChar (c : Char) : List Char :=
  if c = '\"' then ['\\', '\"']
  else if c = '\\' then ['\\', '\\']
  else if c = '\n' then ['\\', 'n']
  else if c = '\r' then ['\\', 'r']
  else if c = '\t' then ['\\', 't']
  else if c.toNat = 0 then ['\\', '0']
  else if isPrintable c then [c]
  else ['\\', 'u', '{'] ++ Nat.toDigits 16 c.toNat ++ ['}']

def quoted (text : String) : String :=
  String.ofList ('\"' :: (text.toList.flatMap showChar ++ ['\"']))

end ComponentDocs.Text
