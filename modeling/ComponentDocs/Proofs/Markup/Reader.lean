import ComponentDocs.Markup.Event

/-! A strict reader of markup. It takes start tags, matching end tags, the three references
and characters that need none, and refuses everything else, so that a text that it accepts
is the printed form of the tree that it gives. -/
namespace ComponentDocs.Markup

/-- A character of a text, or an element with what it holds. -/
inductive Node
  | character (c : Char)
  | element (name : String) (content : List Node)

/-- A name is a word of letters. -/
def isName (name : List Char) : Bool := !name.isEmpty && name.all Char.isAlpha

namespace Node

mutual

def print : Node → List Char
  | .character c => escapeChar c
  | .element name content => startTag name ++ printAll content ++ endTag name

def printAll : List Node → List Char
  | [] => []
  | node :: nodes => node.print ++ printAll nodes

end

mutual

def Named : Node → Prop
  | .character _ => True
  | .element name content => isName name.toList ∧ AllNamed content

def AllNamed : List Node → Prop
  | [] => True
  | node :: nodes => node.Named ∧ AllNamed nodes

end

def isElement : Node → Bool
  | .character _ => false
  | .element _ _ => true

def ofText (text : String) : List Node := text.toList.map .character

def leaf (name value : String) : Node := .element name (ofText value)

theorem printAll_append (first second : List Node) :
    printAll (first ++ second) = printAll first ++ printAll second := by
  induction first with
  | nil => rfl
  | cons node nodes ih => simp only [List.cons_append, printAll, ih, List.append_assoc]

theorem allNamed_append {first second : List Node} :
    AllNamed (first ++ second) ↔ AllNamed first ∧ AllNamed second := by
  induction first with
  | nil => simp only [List.nil_append, AllNamed, true_and]
  | cons node nodes ih => simp only [List.cons_append, AllNamed, ih, and_assoc]

theorem allNamed_iff {nodes : List Node} : AllNamed nodes ↔ ∀ node ∈ nodes, node.Named := by
  induction nodes with
  | nil => simp [AllNamed]
  | cons node nodes ih => simp only [AllNamed, ih, List.forall_mem_cons]

theorem printAll_ofText (text : String) : printAll (ofText text) = escape text := by
  simp only [ofText, escape]
  induction text.toList with
  | nil => rfl
  | cons c rest ih => simp only [List.map_cons, printAll, print, ih, List.flatMap_cons]

theorem allNamed_ofText (text : String) : AllNamed (ofText text) := by
  rw [allNamed_iff]
  intro node inside
  obtain ⟨c, -, rfl⟩ := List.mem_map.mp inside
  exact trivial

end Node

/-- What a text of markup consists of. -/
inductive Token
  | declaration
  | start (name : String)
  | finish (name : String)
  | character (c : Char)

namespace Token

def print : Token → List Char
  | .declaration => declarationTag
  | .start name => startTag name
  | .finish name => endTag name
  | .character c => escapeChar c

def Named : Token → Prop
  | .start name | .finish name => isName name.toList
  | _ => True

def declared : List Char := declarationTag.tail.dropLast

theorem declarationTag_eq : declarationTag = '<' :: (declared ++ ['>']) := by decide

def ofTag? (inside : List Char) : Option Token :=
  if inside = declared then some .declaration
  else if isName inside then some (.start (String.ofList inside))
  else if inside.head? = some '/' ∧ isName inside.tail then
    some (.finish (String.ofList inside.tail))
  else none

def ofReference? (inside : List Char) : Option Token :=
  if inside = ['l', 't'] then some (.character '<')
  else if inside = ['g', 't'] then some (.character '>')
  else if inside = ['a', 'm', 'p'] then some (.character '&')
  else none

theorem ofTag?_start {name : List Char} (named : isName name) :
    ofTag? name = some (.start (String.ofList name)) := by
  have noDeclaration : name ≠ declared := by
    rintro rfl
    exact absurd named (by decide)
  rw [ofTag?, if_neg noDeclaration, if_pos named]

theorem ofTag?_finish {name : List Char} (named : isName name) :
    ofTag? ('/' :: name) = some (.finish (String.ofList name)) := by
  have noDeclaration : '/' :: name ≠ declared := by
    intro same
    exact absurd (congrArg List.head? same) (show some '/' ≠ declared.head? by decide)
  have noName : ¬ isName ('/' :: name) := by
    simp only [isName, List.all_cons, show Char.isAlpha '/' = false by decide, Bool.false_and,
      Bool.and_false, Bool.false_eq_true, not_false_eq_true]
  rw [ofTag?, if_neg noDeclaration, if_neg noName, if_pos ⟨rfl, named⟩, List.tail_cons]

theorem print_ofTag? {inside : List Char} {token : Token} (known : ofTag? inside = some token) :
    token.print = '<' :: (inside ++ ['>']) ∧ token.Named := by
  rw [ofTag?] at known
  split at known
  · rename_i same
    cases known
    exact ⟨same ▸ declarationTag_eq, trivial⟩
  split at known
  · rename_i named
    cases known
    exact ⟨by simp only [print, startTag, String.toList_ofList],
      by simpa only [Named, String.toList_ofList] using named⟩
  split at known
  · rename_i named
    cases known
    obtain ⟨name, rfl⟩ := List.head?_eq_some_iff.mp named.1
    exact ⟨by simp only [print, endTag, String.toList_ofList, List.tail_cons, List.cons_append],
      by simpa only [Named, String.toList_ofList] using named.2⟩
  · cases known

theorem print_ofReference? {inside : List Char} {token : Token}
    (known : ofReference? inside = some token) :
    token.print = '&' :: (inside ++ [';']) ∧ token.Named := by
  simp only [ofReference?] at known
  split at known
  · rename_i same
    cases known
    exact ⟨same ▸ rfl, trivial⟩
  · split at known
    · rename_i same
      cases known
      exact ⟨same ▸ rfl, trivial⟩
    · split at known
      · rename_i same
        cases known
        exact ⟨same ▸ rfl, trivial⟩
      · cases known

end Token

/-- What may interrupt the characters of a text: a reference or a tag. -/
inductive Bracket
  | reference
  | tag

namespace Bracket

def opening : Bracket → Char
  | .reference => '&'
  | .tag => '<'

def closing : Bracket → Char
  | .reference => ';'
  | .tag => '>'

/-- The token that stands between the opening and the closing character. -/
def token? : Bracket → List Char → Option Token
  | .reference => Token.ofReference?
  | .tag => Token.ofTag?

theorem print_token? {bracket : Bracket} {inside : List Char} {token : Token}
    (known : bracket.token? inside = some token) :
    token.print = bracket.opening :: (inside ++ [bracket.closing]) ∧ token.Named := by
  cases bracket with
  | reference => exact Token.print_ofReference? known
  | tag => exact Token.print_ofTag? known

end Bracket

/-- Where in a text the reader is: between tokens, or behind an opening character and what
it has seen since, latest character first. -/
inductive Mode
  | content
  | inside (bracket : Bracket) (seen : List Char)

/-- What of a token was read already. -/
def Mode.begun : Mode → List Char
  | .content => []
  | .inside bracket seen => bracket.opening :: seen.reverse

/-- The tokens of a text. -/
def scan : Mode → List Char → Option (List Token)
  | .content, [] => some []
  | .inside _ _, [] => none
  | .content, c :: rest =>
    if c = '<' then scan (.inside .tag []) rest
    else if c = '&' then scan (.inside .reference []) rest
    else if c = '>' then none
    else (scan .content rest).map (.character c :: ·)
  | .inside bracket seen, c :: rest =>
    if c = bracket.closing then
      (bracket.token? seen.reverse).bind fun token => (scan .content rest).map (token :: ·)
    else scan (.inside bracket (c :: seen)) rest

theorem scan_inside {bracket : Bracket} {inside : List Char} (free : bracket.closing ∉ inside)
    (seen rest : List Char) :
    scan (.inside bracket seen) (inside ++ bracket.closing :: rest) =
      (bracket.token? (seen.reverse ++ inside)).bind fun token =>
        (scan .content rest).map (token :: ·) := by
  induction inside generalizing seen with
  | nil => simp only [List.nil_append, scan, if_true, List.append_nil]
  | cons c inside ih =>
    obtain ⟨ne, free⟩ := not_or.mp (mt List.mem_cons.mpr free)
    rw [List.cons_append, scan, if_neg (Ne.symm ne), ih free, List.reverse_cons, List.append_assoc,
      List.singleton_append]

theorem scan_bracketed (bracket : Bracket) (inside : List Char) {token : Token}
    (free : bracket.closing ∉ inside) (known : bracket.token? inside = some token)
    (rest : List Char) :
    scan .content (bracket.opening :: (inside ++ [bracket.closing]) ++ rest) =
      (scan .content rest).map (token :: ·) := by
  have opened (more : List Char) :
      scan .content (bracket.opening :: more) = scan (.inside bracket []) more := by
    cases bracket <;> rfl
  rw [List.cons_append, opened, List.append_assoc, List.singleton_append, scan_inside free,
    List.reverse_nil, List.nil_append, known, Option.bind_some]

theorem not_mem_of_isName {name : List Char} (named : isName name) : '>' ∉ name := by
  intro inside
  simp only [isName, Bool.and_eq_true, List.all_eq_true] at named
  exact absurd (named.2 _ inside) (by decide)

theorem scan_print {token : Token} (named : token.Named) (rest : List Char) :
    scan .content (token.print ++ rest) = (scan .content rest).map (token :: ·) := by
  cases token with
  | declaration =>
    rw [Token.print, Token.declarationTag_eq]
    exact scan_bracketed .tag _ (by decide) (if_pos rfl) rest
  | start name =>
    have named : isName name.toList := named
    have known := Token.ofTag?_start named
    rw [String.ofList_toList] at known
    exact scan_bracketed .tag _ (not_mem_of_isName named) known rest
  | finish name =>
    have named : isName name.toList := named
    have known := Token.ofTag?_finish named
    rw [String.ofList_toList] at known
    have free : '>' ∉ '/' :: name.toList := by
      rw [List.mem_cons, not_or]
      exact ⟨by decide, not_mem_of_isName named⟩
    exact scan_bracketed .tag _ free known rest
  | character c =>
    rw [Token.print, escapeChar]
    split
    · subst c
      exact scan_bracketed .reference ['l', 't'] (by decide) rfl rest
    split
    · subst c
      exact scan_bracketed .reference ['g', 't'] (by decide) rfl rest
    split
    · subst c
      exact scan_bracketed .reference ['a', 'm', 'p'] (by decide) rfl rest
    · rename_i less greater ampersand
      simp only [List.singleton_append, scan, if_neg less, if_neg ampersand, if_neg greater]

theorem scan_printAll {tokens : List Token} (named : ∀ token ∈ tokens, token.Named) :
    scan .content (tokens.flatMap Token.print) = some tokens := by
  induction tokens with
  | nil => rfl
  | cons token tokens ih =>
    rw [List.flatMap_cons, scan_print (named token (by simp)),
      ih fun other inside => named other (by simp [inside])]
    rfl

/-- A text is accepted only as what its tokens print. -/
theorem print_of_scan {mode : Mode} {text : List Char} {tokens : List Token}
    (read : scan mode text = some tokens) :
    mode.begun ++ text = tokens.flatMap Token.print ∧ ∀ token ∈ tokens, token.Named := by
  induction text generalizing mode tokens with
  | nil =>
    cases mode with
    | content =>
      cases read
      exact ⟨rfl, by simp⟩
    | inside => cases read
  | cons c rest ih =>
    -- A token read off the next characters is printed before those of the rest.
    have token (before : List Char) (token : Token) {others : List Token}
        (known : scan .content rest = some others) (printed : token.print = before ++ [c])
        (named : token.Named) (all : token :: others = tokens) :
        before ++ c :: rest = tokens.flatMap Token.print ∧ ∀ token ∈ tokens, token.Named := by
      obtain ⟨same, others⟩ := ih known
      subst all
      refine ⟨?_, List.forall_mem_cons.mpr ⟨named, others⟩⟩
      rw [List.flatMap_cons, printed, ← same]
      simp only [Mode.begun, List.nil_append, List.append_assoc, List.singleton_append]
    cases mode with
    | content =>
      rw [scan] at read
      split at read
      · rename_i opening
        simpa only [opening, Mode.begun, Bracket.opening, List.reverse_nil, List.singleton_append,
          List.nil_append] using ih read
      split at read
      · rename_i opening
        simpa only [opening, Mode.begun, Bracket.opening, List.reverse_nil, List.singleton_append,
          List.nil_append] using ih read
      split at read
      · cases read
      · rename_i less ampersand greater
        obtain ⟨others, known, all⟩ := Option.map_eq_some_iff.mp read
        refine token [] (.character c) known ?_ trivial all
        simp only [Token.print, escapeChar, if_neg less, if_neg ampersand, if_neg greater,
          List.nil_append]
    | inside bracket seen =>
      rw [scan] at read
      split at read
      · rename_i closing
        obtain ⟨first, known, read⟩ := Option.bind_eq_some_iff.mp read
        obtain ⟨others, others_known, all⟩ := Option.map_eq_some_iff.mp read
        obtain ⟨printed, named⟩ := Bracket.print_token? known
        refine token (bracket.opening :: seen.reverse) _ others_known ?_ named all
        rw [printed, closing, List.cons_append]
      · simpa only [Mode.begun, List.reverse_cons, List.append_assoc, List.cons_append,
          List.nil_append] using ih read

namespace Node

mutual

def tokens : Node → List Token
  | .character c => [.character c]
  | .element name content => .start name :: (tokensAll content ++ [.finish name])

def tokensAll : List Node → List Token
  | [] => []
  | node :: nodes => node.tokens ++ tokensAll nodes

end

theorem tokensAll_append (first second : List Node) :
    tokensAll (first ++ second) = tokensAll first ++ tokensAll second := by
  induction first with
  | nil => rfl
  | cons node nodes ih => simp only [List.cons_append, tokensAll, ih, List.append_assoc]

mutual

theorem print_tokens (node : Node) : node.tokens.flatMap Token.print = node.print := by
  cases node with
  | character c => simp only [tokens, print, List.flatMap_singleton, Token.print]
  | element name content =>
    simp only [tokens, print, List.flatMap_cons, List.flatMap_append, List.flatMap_nil,
      List.append_nil, Token.print, printAll_tokens content, List.append_assoc]

theorem printAll_tokens (nodes : List Node) :
    (tokensAll nodes).flatMap Token.print = printAll nodes := by
  cases nodes with
  | nil => rfl
  | cons node nodes =>
    simp only [tokensAll, printAll, List.flatMap_append, print_tokens node, printAll_tokens nodes]

end

mutual

theorem named_tokens (node : Node) : (∀ token ∈ node.tokens, token.Named) ↔ node.Named := by
  cases node with
  | character c => simp only [tokens, List.forall_mem_singleton, Token.Named, Named]
  | element name content =>
    simp only [tokens, List.forall_mem_cons, List.forall_mem_append, allNamed_tokens content]
    exact ⟨fun named => ⟨named.1, named.2.1⟩, fun named => ⟨named.1, named.2, named.1, by simp⟩⟩

theorem allNamed_tokens (nodes : List Node) :
    (∀ token ∈ tokensAll nodes, token.Named) ↔ AllNamed nodes := by
  cases nodes with
  | nil => simp only [tokensAll, List.not_mem_nil, false_implies, implies_true, AllNamed]
  | cons node nodes =>
    simp only [tokensAll, AllNamed, List.forall_mem_append, named_tokens node, allNamed_tokens nodes]

end

end Node

/-- A reader between two tokens: what it has read of the innermost open element, latest node
first, and for every open element its name and what came before it. -/
structure Reading where
  content : List Node := []
  enclosing : List (String × List Node) := []

namespace Reading

/-- A node more in the innermost open element. -/
def add (node : Node) (reading : Reading) : Reading :=
  { reading with content := node :: reading.content }

/-- Takes a token. An end tag must match the innermost open element, and a declaration
stands inside none. -/
def step : Token → Reading → Option Reading
  | .declaration, _ => none
  | .character c, reading => some (reading.add (.character c))
  | .start name, reading => some ⟨[], (name, reading.content) :: reading.enclosing⟩
  | .finish name, reading =>
    match reading.enclosing with
    | [] => none
    | (opened, before) :: enclosing =>
      if name = opened then some ⟨.element name reading.content.reverse :: before, enclosing⟩ else none

def run : List Token → Reading → Option Reading
  | [], reading => some reading
  | token :: tokens, reading => (reading.step token).bind (run tokens)

mutual

theorem run_node (node : Node) (rest : List Token) (reading : Reading) :
    run (node.tokens ++ rest) reading = run rest (reading.add node) := by
  cases node with
  | character c => rfl
  | element name content =>
    simp only [Node.tokens, List.cons_append, List.append_assoc, List.nil_append, run, step,
      Option.bind_some, run_nodes content]
    simp only [add, List.append_nil, if_true, List.reverse_reverse, Option.bind_some]

theorem run_nodes (nodes : List Node) (rest : List Token) (reading : Reading) :
    run (Node.tokensAll nodes ++ rest) reading =
      run rest { reading with content := nodes.reverse ++ reading.content } := by
  cases nodes with
  | nil => rfl
  | cons node nodes =>
    simp only [Node.tokensAll, List.append_assoc, run_node node, run_nodes nodes, add,
      List.reverse_cons, List.cons_append, List.nil_append]

end

/-- The tokens that open elements and what came before them were read from. -/
def opened : List (String × List Node) → List Token
  | [] => []
  | (name, before) :: enclosing => opened enclosing ++ Node.tokensAll before.reverse ++ [.start name]

/-- The tokens that the reader has taken. -/
def tokens (reading : Reading) : List Token :=
  opened reading.enclosing ++ Node.tokensAll reading.content.reverse

theorem step_tokens {token : Token} {reading next : Reading} (taken : reading.step token = some next) :
    next.tokens = reading.tokens ++ [token] := by
  cases token with
  | declaration => cases taken
  | character c =>
    cases taken
    simp only [tokens, add, List.reverse_cons, Node.tokensAll_append, Node.tokensAll, Node.tokens,
      List.append_nil, List.append_assoc]
  | start name =>
    cases taken
    simp only [tokens, opened, List.reverse_nil, Node.tokensAll, List.append_nil]
  | finish name =>
    obtain ⟨content, _ | ⟨⟨opened', before⟩, enclosing⟩⟩ := reading
    · cases taken
    · simp only [step] at taken
      split at taken
      · rename_i same
        cases taken
        simp only [tokens, opened, List.reverse_cons, Node.tokensAll_append, Node.tokensAll,
          Node.tokens, List.append_nil, List.append_assoc, List.cons_append, List.nil_append, same]
      · cases taken

theorem run_tokens {tokens : List Token} {reading last : Reading}
    (taken : run tokens reading = some last) : last.tokens = reading.tokens ++ tokens := by
  induction tokens generalizing reading with
  | nil =>
    cases taken
    rw [List.append_nil]
  | cons token tokens ih =>
    obtain ⟨next, first, others⟩ := Option.bind_eq_some_iff.mp taken
    rw [ih others, step_tokens first, List.append_assoc, List.singleton_append]

end Reading

def element? (tokens : List Token) : Option Node :=
  match Reading.run tokens {} with
  | some ⟨[.element name content], []⟩ => some (.element name content)
  | _ => none

theorem element?_eq_some_iff {tokens : List Token} {tree : Node} :
    element? tokens = some tree ↔ tree.isElement ∧ tokens = tree.tokens := by
  constructor
  · intro known
    rw [element?] at known
    split at known
    · rename_i name content taken
      cases known
      refine ⟨rfl, ?_⟩
      have kept := Reading.run_tokens taken
      simpa only [Reading.tokens, Reading.opened, List.reverse_cons, List.reverse_nil, Node.tokensAll,
        List.nil_append, List.append_nil] using kept.symm
    · cases known
  · rintro ⟨element, rfl⟩
    have taken := Reading.run_node tree [] {}
    rw [List.append_nil] at taken
    cases tree with
    | character => cases element
    | element name content =>
      simp only [element?, taken, Reading.run, Reading.add]

/-- Reads a document: an element, after a declaration or without, and nothing else. Says
whether there is a declaration. -/
def read (text : List Char) : Option (Bool × Node) :=
  match scan .content text with
  | some (.declaration :: tokens) => (element? tokens).map (true, ·)
  | some tokens => (element? tokens).map (false, ·)
  | none => none

def printDocument (declares : Bool) (tree : Node) : List Char :=
  (if declares then declarationTag else []) ++ tree.print

/-- The reader accepts the printed documents and no other text, and gives back what was
printed. -/
theorem read_eq_some_iff {text : List Char} {declares : Bool} {tree : Node} :
    read text = some (declares, tree) ↔
      (tree.isElement ∧ tree.Named) ∧ text = printDocument declares tree := by
  have accepted (before : List Token) {tokens : List Token}
      (scanned : scan .content text = some (before ++ tokens)) (known : element? tokens = some tree) :
      (tree.isElement ∧ tree.Named) ∧ text = before.flatMap Token.print ++ tree.print := by
    obtain ⟨printed, named⟩ := print_of_scan scanned
    obtain ⟨element, rfl⟩ := element?_eq_some_iff.mp known
    refine ⟨⟨element, (Node.named_tokens tree).mp fun token inside => named token (by simp [inside])⟩, ?_⟩
    rw [← Node.print_tokens, ← List.flatMap_append, ← printed]
    rfl
  constructor
  · intro known
    rw [read] at known
    split at known
    · rename_i tokens scanned
      obtain ⟨other, known, same⟩ := Option.map_eq_some_iff.mp known
      cases same
      exact accepted [.declaration] scanned known
    · rename_i tokens _ scanned
      obtain ⟨other, known, same⟩ := Option.map_eq_some_iff.mp known
      cases same
      exact accepted [] scanned known
    · cases known
  · rintro ⟨⟨element, named⟩, rfl⟩
    have scanned : scan .content tree.print = some tree.tokens := by
      rw [← Node.print_tokens]
      exact scan_printAll ((Node.named_tokens tree).mpr named)
    have known := element?_eq_some_iff.mpr ⟨element, rfl⟩
    cases declares with
    | true =>
      have declaration : scan .content (printDocument true tree) = some (.declaration :: tree.tokens) := by
        have declared : Token.declaration.Named := trivial
        have first := scan_print declared tree.print
        rw [scanned] at first
        exact first
      simp only [read, declaration, known, Option.map_some]
    | false =>
      have scanned : scan .content (printDocument false tree) = some tree.tokens := scanned
      cases tree with
      | character => cases element
      | element name content =>
        rw [Node.tokens] at scanned known
        simp only [read, scanned, known, Option.map_some]

/-- Different elements are printed differently. -/
theorem Node.print_injective {first second : Node} (element : first.isElement ∧ first.Named)
    (other : second.isElement ∧ second.Named) (same : first.print = second.print) :
    first = second := by
  have before : read first.print = some (false, first) := read_eq_some_iff.mpr ⟨element, rfl⟩
  have behind : read second.print = some (false, second) := read_eq_some_iff.mpr ⟨other, rfl⟩
  rw [same, behind] at before
  exact (Prod.mk.inj (Option.some.inj before)).2.symm

end ComponentDocs.Markup
