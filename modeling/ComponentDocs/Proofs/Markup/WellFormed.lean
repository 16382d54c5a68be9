import ComponentDocs.Proofs.Markup.Reader
import ComponentDocs.Proofs.Markup.Xml

/-! Printed documents are well-formed XML exactly when every character that they show is one
that XML allows. Nothing else about the texts matters: escaping sees to the rest. -/
namespace ComponentDocs

namespace Xml

theorem legal_append {first second : List Char} :
    Legal (first ++ second) ↔ Legal first ∧ Legal second := List.forall_mem_append

theorem legal_cons {c : Char} {text : List Char} : Legal (c :: text) ↔ isChar c ∧ Legal text :=
  List.forall_mem_cons

theorem legal_nil : Legal [] := by simp [Legal]

instance (text : List Char) : Decidable (Legal text) := List.decidableBAll _ text

theorem isChar_of_le {c : Char} (low : 0x20 ≤ c.toNat) (high : c.toNat ≤ 0xFFFD) : isChar c := by
  simp [isChar, low, high]

theorem isChar_of_isSpace {c : Char} (space : isSpace c) : isChar c := by
  simp only [isSpace, Bool.or_eq_true, decide_eq_true_eq] at space
  rcases space with ((rfl | rfl) | rfl) | rfl <;> decide

theorem isChar_of_between (first last : Char) {c : Char} (low : first ≤ c) (high : c ≤ last)
    (printable : 0x20 ≤ first.toNat ∧ last.toNat ≤ 0xFFFD) : isChar c :=
  isChar_of_le (Nat.le_trans printable.1 low) (Nat.le_trans high printable.2)

theorem isChar_of_isUpper {c : Char} (upper : c.isUpper) : isChar c :=
  have range := of_decide_eq_true upper
  isChar_of_between 'A' 'Z' range.1 range.2 (by decide)

theorem isChar_of_isAlpha {c : Char} (letter : c.isAlpha) : isChar c := by
  rcases Bool.or_eq_true_iff.mp letter with upper | lower
  · exact isChar_of_isUpper upper
  · obtain ⟨low, high⟩ := Bool.and_eq_true_iff.mp lower
    exact isChar_of_between 'a' 'z' (of_decide_eq_true low) (of_decide_eq_true high) (by decide)

theorem isChar_of_isDigit {c : Char} (digit : c.isDigit) : isChar c := by
  obtain ⟨low, high⟩ := Bool.and_eq_true_iff.mp digit
  exact isChar_of_between '0' '9' (of_decide_eq_true low) (of_decide_eq_true high) (by decide)

theorem isChar_of_isAlphanum {c : Char} (sign : c.isAlphanum) : isChar c := by
  rcases Bool.or_eq_true_iff.mp sign with letter | digit
  · exact isChar_of_isAlpha letter
  · exact isChar_of_isDigit digit

theorem isChar_of_isNameStart {c : Char} (start : isNameStart c) : isChar c := by
  simp only [isNameStart, Bool.or_eq_true, decide_eq_true_eq, List.any_cons, List.any_nil,
    Bool.or_false, Bool.and_eq_true] at start
  rcases start with ((rfl | rfl) | letter) | range
  · decide
  · decide
  · exact isChar_of_isAlpha letter
  · simp only [isChar, Bool.or_eq_true, decide_eq_true_eq, Bool.and_eq_true]
    omega

theorem isChar_of_isNameChar {c : Char} (inside : isNameChar c) : isChar c := by
  simp only [isNameChar, Bool.or_eq_true, decide_eq_true_eq, Bool.and_eq_true] at inside
  rcases inside with (((((start | rfl) | rfl) | digit) | middle) | marks) | ties
  · exact isChar_of_isNameStart start
  · decide
  · decide
  · exact isChar_of_isDigit digit
  all_goals apply isChar_of_le <;> omega

theorem Blank.legal {text : List Char} (blank : Blank text) : Legal text :=
  fun c inside => isChar_of_isSpace (blank c inside)

theorem Name.legal {text : List Char} (named : Name text) : Legal text := by
  obtain ⟨c, rest, rfl, start, inside⟩ := named
  exact legal_cons.mpr ⟨isChar_of_isNameStart start, fun other there =>
    isChar_of_isNameChar (inside other there)⟩

theorem legal_replicate (count : Nat) {c : Char} (legal : isChar c) :
    Legal (List.replicate count c) := by
  intro other inside
  rw [(List.mem_replicate.mp inside).2]
  exact legal

theorem legal_toDigits (value : Nat) : Legal (Nat.toDigits 10 value) := fun _ inside =>
  isChar_of_isDigit (Nat.isDigit_of_mem_toDigits (by decide) (by decide) inside)

theorem mem_toDigits_sixteen {c : Char} {value : Nat} (inside : c ∈ Nat.toDigits 16 value) :
    ∃ digit < 16, c = Nat.digitChar digit := by
  induction value using Nat.strongRecOn with
  | ind value ih =>
    by_cases small : value < 16
    · rw [Nat.toDigits_of_lt_base small, List.mem_singleton] at inside
      exact ⟨value, small, inside⟩
    · rw [Nat.toDigits_of_base_le (by decide) (by omega), List.mem_append, List.mem_singleton] at inside
      rcases inside with inside | last
      · exact ih (value / 16) (by omega) inside
      · exact ⟨value % 16, by omega, last⟩

theorem legal_hexadecimal {digits : List Char} {value : Nat}
    (same : digits.map Char.toLower = Nat.toDigits 16 value) : Legal digits := by
  intro c inside
  obtain ⟨digit, small, lower⟩ := mem_toDigits_sixteen (same ▸ List.mem_map_of_mem inside)
  by_cases upper : c.isUpper
  · exact isChar_of_isUpper upper
  · have legal : ∀ digit < 16, isChar (Nat.digitChar digit) := by decide
    have kept : c.toLower = c := dif_neg fun range => upper (decide_eq_true range)
    rw [← kept, lower]
    exact legal digit small

theorem Reference.legal {text : List Char} (known : Reference text) : Legal text := by
  cases known with
  | entity known =>
    simp only [List.mem_cons, List.not_mem_nil, or_false] at known
    rcases known with rfl | rfl | rfl | rfl | rfl <;> decide
  | decimal =>
    simp only [legal_cons, legal_append]
    exact ⟨rfl, rfl, ⟨legal_replicate _ rfl, legal_toDigits _⟩, rfl, legal_nil⟩
  | hexadecimal _ same =>
    simp only [legal_cons, legal_append]
    exact ⟨rfl, rfl, rfl, ⟨legal_replicate _ rfl, legal_hexadecimal same⟩, rfl, legal_nil⟩

theorem Value.legal {quote : Char} {text : List Char} (held : Value quote text) : Legal text := by
  induction held with
  | nil => exact legal_nil
  | char legal _ _ ih => exact legal_cons.mpr ⟨legal, ih⟩
  | reference known _ ih => exact legal_append.mpr ⟨known.legal, ih⟩

theorem isChar_of_quote {quote : Char} (quoted : quote = '\"' ∨ quote = '\'') : isChar quote := by
  rcases quoted with rfl | rfl <;> rfl

theorem Attributes.legal {names : List (List Char)} {text : List Char}
    (list : Attributes names text) : Legal text := by
  induction list with
  | nil => exact legal_nil
  | cons _ blank named _ quoted held _ ih =>
    obtain ⟨space, before, after⟩ := blank
    have quote := isChar_of_quote quoted
    simp only [legal_cons, legal_append]
    exact ⟨⟨⟨space.legal, named.legal⟩, before.legal⟩, rfl, after.legal, quote, held.legal, quote, ih⟩

theorem Comment.legal {text : List Char} (comment : Comment text) : Legal text := by
  obtain ⟨inside, rfl, legal, -⟩ := comment
  simp only [legal_append]
  exact ⟨⟨by decide, legal⟩, by decide⟩

theorem Instruction.legal {text : List Char} (instruction : Instruction text) : Legal text := by
  obtain ⟨target, inside, rfl, named, -, behind⟩ := instruction
  have behind : Legal inside := by
    rcases behind with rfl | ⟨c, rest, rfl, space, legal, -⟩
    · exact legal_nil
    · exact legal_cons.mpr ⟨isChar_of_isSpace space, legal⟩
  simp only [legal_append]
  exact ⟨⟨⟨by decide, named.legal⟩, behind⟩, by decide⟩

theorem RawData.legal {text : List Char} (raw : RawData text) : Legal text := by
  obtain ⟨inside, rfl, legal, -⟩ := raw
  simp only [legal_append]
  exact ⟨⟨by decide, legal⟩, by decide⟩

theorem Derives.legal {symbol : Symbol} {text : List Char} (derives : Derives symbol text) :
    Legal text := by
  induction derives with
  | empty named list blank =>
    simp only [legal_cons, legal_append]
    exact ⟨rfl, ⟨⟨named.legal, list.legal⟩, blank.legal⟩, rfl, rfl, legal_nil⟩
  | element named list blank _ blank' ih =>
    simp only [legal_cons, legal_append]
    exact ⟨rfl, ⟨⟨named.legal, list.legal⟩, blank.legal⟩, rfl, ih, rfl, rfl,
      ⟨named.legal, blank'.legal⟩, rfl, legal_nil⟩
  | data data => exact data.1
  | child data _ _ element rest =>
    simp only [legal_append]
    exact ⟨⟨data.1, element⟩, rest⟩
  | other data known _ rest =>
    simp only [legal_append]
    refine ⟨⟨data.1, ?_⟩, rest⟩
    rcases known with reference | raw | comment | instruction
    · exact reference.legal
    · exact raw.legal
    · exact comment.legal
    · exact instruction.legal

theorem Info.legal {key : String} {allowed : List Char → Prop} {text : List Char}
    (info : Info key allowed text) (keyed : Legal key.toList)
    (values : ∀ value, allowed value → Legal value) : Legal text := by
  obtain ⟨space, before, after, quote, value, rfl, -, blank, blank', blank'', quoted, known⟩ := info
  have quote := isChar_of_quote quoted
  simp only [legal_cons, legal_append]
  exact ⟨⟨⟨blank.legal, keyed⟩, blank'.legal⟩, rfl, blank''.legal, quote, values _ known, quote,
    legal_nil⟩

theorem Declaration.legal {text : List Char} (declaration : Declaration text) : Legal text := by
  obtain ⟨version, encoding, standalone, space, rfl, versioned, encoded, alone, blank⟩ := declaration
  have version : Legal version := versioned.legal (by decide) fun value known => by
    obtain ⟨digits, rfl, -, inside⟩ := known
    exact legal_cons.mpr ⟨rfl, legal_cons.mpr ⟨rfl, fun c there => isChar_of_isDigit (inside c there)⟩⟩
  have encoding : Legal encoding := by
    rcases encoded with rfl | encoded
    · exact legal_nil
    refine encoded.legal (by decide) fun value known => ?_
    obtain ⟨c, rest, rfl, letter, inside⟩ := known
    refine legal_cons.mpr ⟨isChar_of_isAlpha letter, fun other there => ?_⟩
    rcases inside other there with letter | sign
    · exact isChar_of_isAlphanum letter
    · have signs : ∀ c ∈ ['.', '_', '-'], isChar c := List.all_eq_true.mp rfl
      exact signs other sign
  have standalone : Legal standalone := by
    rcases alone with rfl | alone
    · exact legal_nil
    refine alone.legal (by decide) fun value known => ?_
    rcases known with rfl | rfl <;> decide
  simp only [legal_append]
  exact ⟨⟨⟨⟨⟨by decide, version⟩, encoding⟩, standalone⟩, blank.legal⟩, by decide⟩

theorem Misc.legal {text : List Char} (misc : Misc text) : Legal text := by
  induction misc with
  | nil => exact legal_nil
  | cons known _ ih =>
    refine legal_append.mpr ⟨?_, ih⟩
    rcases known with comment | instruction | blank
    · exact comment.legal
    · exact instruction.legal
    · exact blank.legal

/-- A well-formed document has no character that XML does not allow. -/
theorem Document.legal {text : List Char} (document : Document text) : Legal text := by
  obtain ⟨declaration, before, element, after, rfl, declared, first, root, last⟩ := document
  have declaration : Legal declaration := by
    rcases declared with rfl | declared
    · exact legal_nil
    · exact declared.legal
  simp only [legal_append]
  exact ⟨⟨⟨declaration, first.legal⟩, root.legal⟩, last.legal⟩

/-- Character data with something behind it that begins with a tag or a reference, or with
nothing behind it. -/
def Spread (text : List Char) : Prop :=
  ∃ data behind, text = data ++ behind ∧ (∀ c ∈ data, isChar c ∧ c ∉ ['<', '&', '>']) ∧
    (behind = [] ∨ ∃ piece rest, behind = piece ++ rest ∧
      (Derives .element piece ∨ Reference piece) ∧ Derives .content rest)

theorem charData_of_plain {data : List Char} (plain : ∀ c ∈ data, isChar c ∧ c ∉ ['<', '&', '>']) :
    CharData data := by
  refine ⟨fun c inside => (plain c inside).1, fun c inside => ?_, fun ending => ?_⟩
  · have := (plain c inside).2
    simp only [List.mem_cons, List.not_mem_nil, or_false, not_or] at this
    exact ⟨this.1, this.2.1⟩
  · exact (plain '>' (ending.subset (by decide))).2 (by decide)

theorem Spread.derives {text : List Char} (spread : Spread text) : Derives .content text := by
  obtain ⟨data, behind, rfl, plain, empty | ⟨piece, rest, rfl, known, content⟩⟩ := spread
  · rw [empty, List.append_nil]
    exact .data (charData_of_plain plain)
  · rw [← List.append_assoc]
    rcases known with element | reference
    · exact .child (charData_of_plain plain) element content
    · exact .other (charData_of_plain plain) (.inl reference) content

end Xml

namespace Markup

open Xml

theorem name_of_isName {name : List Char} (named : isName name) : Xml.Name name := by
  simp only [isName, Bool.and_eq_true, List.all_eq_true] at named
  obtain ⟨c, rest, rfl⟩ := List.exists_cons_of_ne_nil (l := name) (by
    rintro rfl
    cases named.1)
  have start (other : Char) (inside : other ∈ c :: rest) : isNameStart other := by
    simp only [isNameStart, named.2 other inside, Bool.or_true, Bool.true_or]
  refine ⟨c, rest, rfl, start c (by simp), fun other inside => ?_⟩
  simp only [isNameChar, start other (by simp [inside]), Bool.true_or]

theorem derives_around {name : String} (named : isName name.toList) {content : List Char}
    (derives : Derives .content content) :
    Derives .element (startTag name ++ content ++ endTag name) := by
  have nothing : Blank [] := by simp [Blank]
  have element := Derives.element (name_of_isName named) .nil nothing derives nothing
  simpa only [startTag, endTag, List.append_nil, List.cons_append, List.append_assoc,
    List.nil_append] using element

theorem spread_character {c : Char} (legal : isChar c) {text : List Char} (spread : Spread text) :
    Spread (escapeChar c ++ text) := by
  have reference {piece : List Char} (known : Reference piece) : Spread (piece ++ text) :=
    ⟨[], _, rfl, by simp, .inr ⟨piece, text, rfl, .inr known, spread.derives⟩⟩
  rw [escapeChar]
  split
  · exact reference (.entity (show "lt" ∈ _ by simp))
  split
  · exact reference (.entity (show "gt" ∈ _ by simp))
  split
  · exact reference (.entity (show "amp" ∈ _ by simp))
  · rename_i less greater ampersand
    obtain ⟨data, behind, rfl, plain, known⟩ := spread
    refine ⟨c :: data, behind, rfl, List.forall_mem_cons.mpr ⟨⟨legal, ?_⟩, plain⟩, known⟩
    simp only [List.mem_cons, List.not_mem_nil, or_false, not_or]
    exact ⟨less, ampersand, greater⟩

namespace Node

mutual

def characters : Node → List Char
  | .character c => [c]
  | .element _ content => charactersAll content

def charactersAll : List Node → List Char
  | [] => []
  | node :: nodes => node.characters ++ charactersAll nodes

end

mutual

theorem spread_node {node : Node} (named : node.Named) (legal : Legal node.characters)
    {text : List Char} (spread : Spread text) : Spread (node.print ++ text) := by
  cases node with
  | character c => exact spread_character (legal c (by simp [characters])) spread
  | element name content =>
    have inside := spread_nodes named.2 legal
    exact ⟨[], _, rfl, by simp, .inr ⟨_, text, rfl, .inl (derives_around named.1 inside.derives),
      spread.derives⟩⟩

theorem spread_nodes {nodes : List Node} (named : AllNamed nodes) (legal : Legal (charactersAll nodes)) :
    Spread (printAll nodes) := by
  cases nodes with
  | nil => exact ⟨[], [], rfl, by simp, .inl rfl⟩
  | cons node nodes =>
    rw [charactersAll, legal_append] at legal
    exact spread_node named.1 legal.1 (spread_nodes named.2 legal.2)

end

mutual

/-- The characters of a tree occur in its printed form, unless they are written as
references. -/
theorem legal_of_print {node : Node} (legal : Legal node.print) : Legal node.characters := by
  cases node with
  | character c =>
    rw [characters, legal_cons]
    refine ⟨?_, legal_nil⟩
    simp only [print, escapeChar] at legal
    split at legal
    · subst c
      rfl
    split at legal
    · subst c
      rfl
    split at legal
    · subst c
      rfl
    · exact legal c (by simp)
  | element name content =>
    rw [print, legal_append, legal_append] at legal
    exact legal_of_printAll legal.1.2

theorem legal_of_printAll {nodes : List Node} (legal : Legal (printAll nodes)) :
    Legal (charactersAll nodes) := by
  cases nodes with
  | nil => exact legal_nil
  | cons node nodes =>
    rw [printAll, legal_append] at legal
    rw [charactersAll, legal_append]
    exact ⟨legal_of_print legal.1, legal_of_printAll legal.2⟩

end

end Node

theorem declaration_declarationTag : Declaration declarationTag := by
  refine ⟨" version=\"1.0\"".toList, " encoding=\"UTF-8\"".toList, [], [], by decide,
    ⟨[' '], [], [], '\"', "1.0".toList, by decide, by decide, by simp [Blank, isSpace], by simp [Blank],
      by simp [Blank], .inl rfl, ['0'], rfl, by decide, by simp⟩,
    .inr ⟨[' '], [], [], '\"', "UTF-8".toList, by decide, by decide, by simp [Blank, isSpace],
      by simp [Blank], by simp [Blank], .inl rfl, 'U', ['T', 'F', '-', '8'], rfl, rfl, by simp⟩,
    .inl rfl, by simp [Blank]⟩

/-- A printed document is well-formed exactly when XML allows every character in its texts. -/
theorem document_iff (tree : Node) (element : tree.isElement) (named : tree.Named)
    (declares : Bool) : Document (printDocument declares tree) ↔ Legal tree.characters := by
  constructor
  · intro document
    have legal := document.legal
    rw [printDocument, legal_append] at legal
    exact Node.legal_of_print legal.2
  · intro legal
    cases tree with
    | character => cases element
    | element name content =>
      have derives := derives_around named.1 (Node.spread_nodes named.2 legal).derives
      refine ⟨if declares then declarationTag else [], [], _, [], ?_, ?_, .nil, derives, .nil⟩
      · simp only [printDocument, Node.print, List.append_nil]
      · cases declares with
        | true => exact .inr declaration_declarationTag
        | false => exact .inl rfl

end Markup

end ComponentDocs
