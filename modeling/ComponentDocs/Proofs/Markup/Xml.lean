import ComponentDocs.Markup.Event

/-! Well-formed XML 1.0, production by production. Document type declarations are left out:
a text without `<!DOCTYPE` needs no more than what is here, and then only five entities are
declared. -/
namespace ComponentDocs.Xml

/-- The production `Char`: no controls but tabulator, line feed and carriage return, and
neither of the two last code points of the first plane. -/
def isChar (c : Char) : Bool :=
  c = '\t' || c = '\n' || c = '\r' || (0x20 ≤ c.toNat && c.toNat ≤ 0xFFFD) || 0x10000 ≤ c.toNat

/-- The production `S`, character by character. -/
def isSpace (c : Char) : Bool := c = ' ' || c = '\t' || c = '\r' || c = '\n'

/-- The production `NameStartChar`. -/
def isNameStart (c : Char) : Bool :=
  c = ':' || c = '_' || c.isAlpha ||
  [(0xC0, 0xD6), (0xD8, 0xF6), (0xF8, 0x2FF), (0x370, 0x37D), (0x37F, 0x1FFF), (0x200C, 0x200D),
    (0x2070, 0x218F), (0x2C00, 0x2FEF), (0x3001, 0xD7FF), (0xF900, 0xFDCF), (0xFDF0, 0xFFFD),
    (0x10000, 0xEFFFF)].any fun range => range.1 ≤ c.toNat && c.toNat ≤ range.2

/-- The production `NameChar`. -/
def isNameChar (c : Char) : Bool :=
  isNameStart c || c = '-' || c = '.' || c.isDigit || c.toNat = 0xB7 ||
  (0x300 ≤ c.toNat && c.toNat ≤ 0x36F) || (0x203F ≤ c.toNat && c.toNat ≤ 0x2040)

/-- A text of characters that XML allows. -/
def Legal (text : List Char) : Prop := ∀ c ∈ text, isChar c

def Blank (text : List Char) : Prop := ∀ c ∈ text, isSpace c

def Name (text : List Char) : Prop :=
  ∃ c rest, text = c :: rest ∧ isNameStart c ∧ ∀ other ∈ rest, isNameChar other

/-- A reference to one of the entities that every document has, or to a character. -/
inductive Reference : List Char → Prop
  | entity {name} (known : name ∈ ["lt", "gt", "amp", "apos", "quot"]) :
      Reference ('&' :: (name.toList ++ [';']))
  | decimal {c : Char} {zeros : Nat} (legal : isChar c) :
      Reference ('&' :: '#' :: (List.replicate zeros '0' ++ Nat.toDigits 10 c.toNat ++ [';']))
  | hexadecimal {c : Char} {zeros : Nat} {digits : List Char} (legal : isChar c)
      (same : digits.map Char.toLower = Nat.toDigits 16 c.toNat) :
      Reference ('&' :: '#' :: 'x' :: (List.replicate zeros '0' ++ digits ++ [';']))

/-- What stands between the quotes of an attribute. -/
inductive Value (quote : Char) : List Char → Prop
  | nil : Value quote []
  | char {c rest} (legal : isChar c) (plain : c ≠ '<' ∧ c ≠ '&' ∧ c ≠ quote)
      (behind : Value quote rest) : Value quote (c :: rest)
  | reference {text rest} (known : Reference text) (behind : Value quote rest) :
      Value quote (text ++ rest)

/-- Attributes with distinct names. -/
inductive Attributes : List (List Char) → List Char → Prop
  | nil : Attributes [] []
  | cons {space name before after value names rest} {quote : Char} (apart : space ≠ [])
      (blank : Blank space ∧ Blank before ∧ Blank after) (named : Name name) (fresh : name ∉ names)
      (quoted : quote = '\"' ∨ quote = '\'') (held : Value quote value)
      (behind : Attributes names rest) :
      Attributes (name :: names)
        (space ++ name ++ before ++ '=' :: (after ++ quote :: (value ++ quote :: rest)))

/-- Characters that stand for themselves. The end of a section of raw data does not occur. -/
def CharData (text : List Char) : Prop :=
  Legal text ∧ (∀ c ∈ text, c ≠ '<' ∧ c ≠ '&') ∧ ¬ [']', ']', '>'] <:+: text

def Comment (text : List Char) : Prop :=
  ∃ inside, text = "<!--".toList ++ inside ++ "-->".toList ∧ Legal inside ∧
    ¬ ['-', '-'] <:+: inside ++ ['-']

/-- A processing instruction. The declaration at the beginning of a document is none. -/
def Instruction (text : List Char) : Prop :=
  ∃ target inside, text = "<?".toList ++ target ++ inside ++ "?>".toList ∧ Name target ∧
    target.map Char.toLower ≠ "xml".toList ∧
    (inside = [] ∨ ∃ c rest, inside = c :: rest ∧ isSpace c ∧ Legal rest ∧ ¬ ['?', '>'] <:+: inside)

/-- A section of raw data. -/
def RawData (text : List Char) : Prop :=
  ∃ inside, text = "<![CDATA[".toList ++ inside ++ "]]>".toList ∧ Legal inside ∧
    ¬ [']', ']', '>'] <:+: inside

inductive Symbol
  | element
  | content

/-- Elements, and what stands between their tags: character data with elements, references,
raw data, comments and instructions in between. -/
inductive Derives : Symbol → List Char → Prop
  | empty {name names attributes space} (named : Name name) (list : Attributes names attributes)
      (blank : Blank space) :
      Derives .element ('<' :: (name ++ attributes ++ space ++ ['/', '>']))
  | element {name names attributes space content space'} (named : Name name)
      (list : Attributes names attributes) (blank : Blank space) (held : Derives .content content)
      (blank' : Blank space') :
      Derives .element ('<' :: (name ++ attributes ++ space ++ '>' ::
        (content ++ '<' :: '/' :: (name ++ space' ++ ['>']))))
  | data {text} (data : CharData text) : Derives .content text
  | child {text element rest} (data : CharData text) (child : Derives .element element)
      (behind : Derives .content rest) : Derives .content (text ++ element ++ rest)
  | other {text piece rest} (data : CharData text)
      (known : Reference piece ∨ RawData piece ∨ Comment piece ∨ Instruction piece)
      (behind : Derives .content rest) : Derives .content (text ++ piece ++ rest)

/-- Part of the declaration: a key with a quoted value. -/
def Info (key : String) (allowed : List Char → Prop) (text : List Char) : Prop :=
  ∃ space before after quote value,
    text = space ++ key.toList ++ before ++ '=' :: (after ++ quote :: (value ++ [quote])) ∧
    space ≠ [] ∧ Blank space ∧ Blank before ∧ Blank after ∧ (quote = '\"' ∨ quote = '\'') ∧
    allowed value

def Version (text : List Char) : Prop :=
  ∃ digits, text = '1' :: '.' :: digits ∧ digits ≠ [] ∧ ∀ c ∈ digits, c.isDigit

def Encoding (text : List Char) : Prop :=
  ∃ c rest, text = c :: rest ∧ c.isAlpha ∧
    ∀ other ∈ rest, other.isAlphanum ∨ other ∈ ['.', '_', '-']

def Standalone (text : List Char) : Prop := text = "yes".toList ∨ text = "no".toList

def Declaration (text : List Char) : Prop :=
  ∃ version encoding standalone space,
    text = "<?xml".toList ++ version ++ encoding ++ standalone ++ space ++ "?>".toList ∧
    Info "version" Version version ∧ (encoding = [] ∨ Info "encoding" Encoding encoding) ∧
    (standalone = [] ∨ Info "standalone" Standalone standalone) ∧ Blank space

/-- Comments, instructions and blanks, outside the root element. -/
inductive Misc : List Char → Prop
  | nil : Misc []
  | cons {piece rest} (known : Comment piece ∨ Instruction piece ∨ Blank piece)
      (behind : Misc rest) : Misc (piece ++ rest)

/-- A well-formed document: one element, after a declaration or without. -/
def Document (text : List Char) : Prop :=
  ∃ declaration before element after, text = declaration ++ before ++ element ++ after ∧
    (declaration = [] ∨ Declaration declaration) ∧ Misc before ∧ Derives .element element ∧
    Misc after

end ComponentDocs.Xml
