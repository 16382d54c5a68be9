/-! Markup as a sequence of events, and the text of each event. -/
namespace ComponentDocs.Markup

/-- `finish` closes the innermost open element. -/
inductive Event
  | declaration
  | start (name : String)
  | text (value : String)
  | finish
deriving DecidableEq

def leaf (name value : String) : List Event := [.start name, .text value, .finish]

/-- A character of a text. The three that could be taken for markup are written as
references; quotes and controls stand for themselves. -/
def escapeChar (c : Char) : List Char :=
  if c = '<' then ['&', 'l', 't', ';']
  else if c = '>' then ['&', 'g', 't', ';']
  else if c = '&' then ['&', 'a', 'm', 'p', ';']
  else [c]

def escape (text : String) : List Char := text.toList.flatMap escapeChar

def startTag (name : String) : List Char := '<' :: (name.toList ++ ['>'])

def endTag (name : String) : List Char := '<' :: '/' :: (name.toList ++ ['>'])

def declarationTag : List Char := "<?xml version=\"1.0\" encoding=\"UTF-8\"?>".toList

end ComponentDocs.Markup
