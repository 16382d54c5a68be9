import ComponentDocs.Proofs.Document.Indentation
import ComponentDocs.Proofs.Markup.Closing
import ComponentDocs.Proofs.Text.Bytes
import ComponentDocs.Text.Split

/-! Where documents end. An XML document ends at the first end tag of its root and a compact
JSON document at its first line feed, whatever its texts hold, and an indented object ends with
its brace; so no document begins with another one, and what a sink has cut is none. -/
namespace ComponentDocs

open Markup (Margin Node Token)

namespace Rule

mutual

def names : Rule → List String
  | .record rules => namesOfMembers rules
  | .list item _ rule => item :: rule.names
  | _ => []

def namesOfMembers : List (String × Presence × Rule) → List String
  | [] => []
  | (name, _, rule) :: rules => name :: (rule.names ++ namesOfMembers rules)

end

theorem names_member {rules : List (String × Presence × Rule)} {name : String} {presence : Presence}
    {rule : Rule} (inside : (name, presence, rule) ∈ rules) :
    name ∈ namesOfMembers rules ∧ ∀ other ∈ rule.names, other ∈ namesOfMembers rules := by
  induction rules with
  | nil => cases inside
  | cons first rules ih =>
    obtain ⟨firstName, firstPresence, firstRule⟩ := first
    simp only [namesOfMembers, List.mem_cons, List.mem_append]
    rcases List.mem_cons.mp inside with same | inside
    · cases same
      exact ⟨.inl rfl, fun other known => .inr (.inl known)⟩
    · obtain ⟨known, each⟩ := ih inside
      exact ⟨.inr (.inr known), fun other there => .inr (.inr (each other there))⟩

end Rule

namespace Content

theorem finish_not_mem_ofText (name value : String) : .finish name ∉ Node.tokensAll (Node.ofText value) := by
  rw [Node.ofText]
  induction value.toList with
  | nil => exact List.not_mem_nil
  | cons c rest ih =>
    rw [List.map_cons, Node.tokensAll, Node.tokens]
    simp [ih]

theorem exists_token {token : Token} {nodes : List Node} (inside : token ∈ Node.tokensAll nodes) :
    ∃ node ∈ nodes, token ∈ node.tokens := by
  induction nodes with
  | nil => cases inside
  | cons node nodes ih =>
    rw [Node.tokensAll, List.mem_append] at inside
    rcases inside with here | inside
    · exact ⟨node, List.mem_cons_self, here⟩
    · obtain ⟨other, there, known⟩ := ih inside
      exact ⟨other, List.mem_cons_of_mem _ there, known⟩

theorem finish_of_spaced {margin outer : Option Margin} {nodes : List Node} {name : String}
    (inside : .finish name ∈ Node.tokensAll (Markup.spaced margin nodes ++ Markup.blanks outer)) :
    ∃ node ∈ nodes, .finish name ∈ node.tokens := by
  obtain ⟨node, there, ends⟩ := exists_token inside
  have solid (margin : Option Margin) : node ∉ Markup.blanks margin := by
    intro blank
    obtain ⟨c, -, rfl⟩ := List.mem_map.mp blank
    rw [Node.tokens, List.mem_singleton] at ends
    cases ends
  rcases List.mem_append.mp there with spaced | blank
  · obtain ⟨other, known, near⟩ := List.mem_flatMap.mp spaced
    rcases List.mem_append.mp near with blank | same
    · exact absurd blank (solid margin)
    · exact ⟨other, known, List.mem_singleton.mp same ▸ ends⟩
  · exact absurd blank (solid outer)

theorem name_of_finish {levels : Nat} {name : String} {content : Content}
    (proper : content.Proper levels name) {rule : Rule} (admits : rule.Admits content)
    (margin : Option Margin) {other : String} (inside : .finish other ∈ Node.tokensAll (content.nodes margin)) :
    other ∈ rule.names := by
  induction proper generalizing rule margin with
  | text | missing | flag | count => exact absurd inside (finish_not_mem_ofText _ _)
  | record _ _ _ _ ih =>
    obtain ⟨rules, rfl, admits⟩ := Rule.admits_record admits
    rw [nodes, memberNodes_eq] at inside
    obtain ⟨node, spaced, ends⟩ := finish_of_spaced inside
    obtain ⟨member, there, rfl⟩ := List.mem_map.mp spaced
    obtain ⟨presence, rule, known, admits⟩ := Rule.member_rule admits there
    obtain ⟨named, each⟩ := Rule.names_member known
    rw [Rule.names]
    simp only [element, Node.tokens, List.mem_cons, List.mem_append, List.not_mem_nil, or_false,
      reduceCtorEq, false_or, Token.finish.injEq] at ends
    rcases ends with ends | rfl
    · exact each other (ih member there admits _ ends)
    · exact named
  | @list _ _ items _ _ ih =>
    obtain ⟨inhabited, rule, rfl, each⟩ := Rule.admits_list admits
    cases items with
    | nil => exact absurd inside (finish_not_mem_ofText _ _)
    | cons first items =>
      rw [nodes, itemNodes_eq] at inside
      obtain ⟨node, spaced, ends⟩ := finish_of_spaced inside
      obtain ⟨content, there, rfl⟩ := List.mem_map.mp spaced
      rw [Rule.names]
      simp only [element, Node.tokens, List.mem_cons, List.mem_append, List.not_mem_nil, or_false,
        reduceCtorEq, false_or, Token.finish.injEq] at ends
      rcases ends with ends | rfl
      · exact List.mem_cons_of_mem _ (ih content there (each content there) _ ends)
      · exact List.mem_cons_self

end Content

theorem Rule.extension_not_mem (category : Category) : "extension" ∉ (Rule.extension category).names := by
  cases category <;> decide +kernel

theorem Text.split_lines {α : Type} {line : α → List Char} {items : List α}
    (each : ∀ item ∈ items, '\n' ∉ line item) :
    split '\n' (items.flatMap fun item => line item ++ ['\n']) = items.map line ++ [[]] := by
  induction items with
  | nil => rfl
  | cons item items ih =>
    rw [List.flatMap_cons, List.append_assoc, List.singleton_append,
      split_append_cons (each item List.mem_cons_self),
      ih fun other inside => each other (List.mem_cons_of_mem _ inside), List.map_cons, List.cons_append]

namespace Json

theorem line_feed_not_mem_escapeChar (c : Char) : '\n' ∉ escapeChar c := by
  have digit : ∀ n < 16, '\n' ≠ Nat.digitChar n := by decide
  have low := digit (c.toNat % 16) (Nat.mod_lt _ (by decide))
  rw [escapeChar]
  by_cases feed : c = '\n'
  · subst feed
    decide
  · repeat' split
    any_goals decide
    · have high := digit (c.toNat / 16) (by omega)
      simp [high, low]
    · simpa [eq_comm] using feed

theorem line_feed_not_mem_quote (text : String) : '\n' ∉ quote text := by
  simp [quote, line_feed_not_mem_escapeChar]

theorem line_feed_not_mem_scalar {value : Json} (plain : value.Plain 0) (level : Nat) :
    '\n' ∉ value.print none level := by
  cases value with
  | null => simp [print]
  | bool flag => cases flag <;> simp [print]
  | string text =>
    rw [print]
    exact line_feed_not_mem_quote text
  | array | object => simp only [Plain] at plain
  | number number =>
    cases number with
    | negative | float => simp only [Plain] at plain
    | natural n =>
      intro inside
      have digit := isDigit_of_mem_toDigits (n := n) inside
      exact absurd digit (by decide)

theorem line_feed_not_mem_items {level : Nat} {items : List Json}
    (each : ∀ item ∈ items, '\n' ∉ item.print none level) : '\n' ∉ printItems none level items := by
  induction items with
  | nil => exact List.not_mem_nil
  | cons item items ih =>
    have behind : '\n' ∉ behindItem none level items := by
      cases items with
      | nil => exact List.not_mem_nil
      | cons next items =>
        have others := ih fun other inside => each other (List.mem_cons_of_mem _ inside)
        simpa [behindItem] using others
    simpa [printItems_cons, Layout.line, behind] using each item List.mem_cons_self

theorem line_feed_not_mem_members {level : Nat} {members : Members}
    (each : ∀ member ∈ members, '\n' ∉ member.2.print none level) :
    '\n' ∉ printMembers none level members := by
  induction members with
  | nil => exact List.not_mem_nil
  | cons member members ih =>
    have behind : '\n' ∉ behindMember none level members := by
      cases members with
      | nil => exact List.not_mem_nil
      | cons next members =>
        have others := ih fun other inside => each other (List.mem_cons_of_mem _ inside)
        simpa [behindMember] using others
    obtain ⟨key, value⟩ := member
    have value := each (key, value) List.mem_cons_self
    simpa [printMembers_cons, Layout.line, Layout.colon, behind, line_feed_not_mem_quote key] using value

theorem line_feed_not_mem {levels : Nat} {value : Json} (plain : value.Plain levels) (level : Nat) :
    '\n' ∉ value.print none level := by
  induction levels generalizing value level with
  | zero => exact line_feed_not_mem_scalar plain level
  | succ levels ih =>
    cases value with
    | null | bool | string => exact line_feed_not_mem_scalar (by simp only [Plain]) level
    | number => exact line_feed_not_mem_scalar (plain_number plain 0) level
    | array items =>
      simp only [Plain] at plain
      cases items with
      | nil => simp [print]
      | cons item items =>
        have inside := line_feed_not_mem_items fun other known => ih (plain other known) (level + 1)
        simpa [print, Layout.line] using inside
    | object members =>
      simp only [Plain] at plain
      cases members with
      | nil => simp [print]
      | cons member members =>
        have inside := line_feed_not_mem_members fun other known => ih (plain.2 other known) (level + 1)
        simpa [print, Layout.line] using inside

end Json

namespace Request

def prologueTokens (options : Options) : List Token :=
  if options.xmlDeclaration then
    .declaration :: (if options.indent.isSome then [.character '\n'] else [])
  else []

theorem print_prologueTokens (options : Options) :
    (prologueTokens options).flatMap Token.print = prologue options := by
  rw [prologueTokens, prologue]
  repeat' split
  all_goals rfl

theorem text_xml_ends (request : Request) (options : Options) :
    ∃ front, request.text .xml options = front ++ Markup.endTag "extension" := by
  rw [text_xml, Content.element, Node.print, ← List.append_assoc]
  exact ⟨_, rfl⟩

/-- Behind the end tag of the root there is nothing, wherever it may stand. -/
theorem text_xml_closes (request : Request) (options : Options) {front back : List Char}
    (cut : request.text .xml options = front ++ (Markup.endTag "extension" ++ back)) : back = [] := by
  rw [text_xml, ← print_prologueTokens] at cut
  refine Node.eq_nil_of_endTag ?_ (request.root_named _).2 ?_ ?_ cut
  · intro token inside
    rw [prologueTokens] at inside
    repeat' split at inside
    all_goals simp only [List.mem_cons, List.not_mem_nil, or_false] at inside
    · rcases inside with rfl | rfl <;> exact trivial
    · rw [inside]
      exact trivial
  · rw [prologueTokens]
    repeat' split
    all_goals simp
  · intro inside
    exact Rule.extension_not_mem _
      (Content.name_of_finish request.content_proper (Rule.admits_content request) _ inside)

theorem text_json (request : Request) (options : Options) :
    request.text .json options = request.content.json.print options.indent 0 ++ ['\n'] := by
  rw [text, offers, List.flatten_cons, List.flatten_singleton]

theorem text_json_closes (request : Request) {options : Options} (compact : options.indent = none)
    {front back : List Char} (cut : request.text .json options = front ++ (['\n'] ++ back)) :
    back = [] := by
  rw [text_json, compact] at cut
  exact Markup.eq_nil_of_concat (Json.line_feed_not_mem request.content_proper.plain 0) cut

/-- An object is read from the beginning of a text up to where it ends, so no other one begins
with its document. -/
theorem text_json_continued (request other : Request) (options : Options) {back : List Char}
    (continued : other.text .json options = request.text .json options ++ back) : back = [] := by
  rw [text_json, text_json, List.append_assoc, List.singleton_append] at continued
  obtain ⟨behind, read⟩ := Json.readValue_print request.content_proper.plain options.indent 0
    (Json.endsValue_cons (c := '\n') (by decide) back) {}
  obtain ⟨behind', read'⟩ := Json.readValue_print other.content_proper.plain options.indent 0
    (Json.endsValue_cons (c := '\n') (by decide) []) {}
  rw [continued, read] at read'
  simp only [Except.ok.injEq, Prod.mk.injEq, Json.Cursor.mk.injEq, List.cons.injEq, true_and] at read'
  exact read'.2.1

def closing : Format → List Char
  | .xml => Markup.endTag "extension"
  | .json => ['\n']

theorem closing_ascii (format : Format) : Text.IsAscii (closing format) := by
  cases format <;> simp [Text.IsAscii, closing, Markup.endTag]

theorem closing_ne_nil (format : Format) : closing format ≠ [] := by
  cases format <;> exact List.cons_ne_nil _ _

theorem text_ends (request : Request) (format : Format) (options : Options) :
    ∃ front, request.text format options = front ++ closing format := by
  cases format with
  | xml => exact request.text_xml_ends options
  | json => exact ⟨_, request.text_json options⟩

theorem text_of_bytes (request other : Request) (format : Format) (options : Options) {rest : ByteArray}
    (continued : Sink.bytesOf (other.text format options) =
      Sink.bytesOf (request.text format options) ++ rest) :
    ∃ back, other.text format options = request.text format options ++ back ∧ rest = Sink.bytesOf back := by
  obtain ⟨front, ends⟩ := request.text_ends format options
  rw [ends, Sink.bytesOf_append] at continued
  obtain ⟨first, back, cut, same, rfl⟩ :=
    Sink.bytesOf_split (closing_ascii format) (closing_ne_nil format) continued
  obtain rfl := Sink.bytesOf_injective same
  exact ⟨back, by rw [cut, ends, List.append_assoc], rfl⟩

theorem text_continued (request other : Request) (format : Format) (options : Options) {back : List Char}
    (continued : other.text format options = request.text format options ++ back) : back = [] := by
  cases format with
  | xml =>
    obtain ⟨front, ends⟩ := request.text_xml_ends options
    rw [ends, List.append_assoc] at continued
    exact other.text_xml_closes options continued
  | json => exact request.text_json_continued other options continued

theorem render_continued (request other : Request) (format : Format) (options : Options) {rest : ByteArray}
    (rendered : other.render format options =
      .ok (Sink.bytesOf (request.text format options) ++ rest)) : rest = .empty := by
  rw [render_eq] at rendered
  obtain ⟨back, continued, rfl⟩ := text_of_bytes request other format options (Except.ok.inj rendered)
  rw [text_continued request other format options continued]
  rfl

theorem endsOnce_xml (request : Request) (options : Options) :
    EndsOnce (Sink.bytesOf (Markup.endTag "extension")) (Sink.bytesOf (request.text .xml options)) := by
  obtain ⟨front, ends⟩ := request.text_xml_ends options
  rw [ends]
  exact endsOnce_bytesOf (closing_ascii .xml) (closing_ne_nil .xml)
    fun before after cut => request.text_xml_closes options (ends.trans cut)

theorem endsOnce_json (request : Request) {options : Options} (compact : options.indent = none) :
    EndsOnce (Sink.bytesOf ['\n']) (Sink.bytesOf (request.text .json options)) := by
  rw [text_json]
  refine endsOnce_bytesOf (closing_ascii .json) (closing_ne_nil .json) fun before after cut => ?_
  exact request.text_json_closes compact ((request.text_json options).trans cut)

theorem document_taken (request : Request) (format : Format) (options : Options) (sink : Sink) :
    ∃ piece rest, Sink.bytesOf (request.text format options) = piece ++ rest ∧
      ((Renderer.create format options sink).document request).2.sink.taken = sink.taken ++ piece := by
  by_cases roomy : sink.HasRoom (Sink.bytesOf (request.text format options)).size
  · have seen := Renderer.document_of_taken (Sink.offer_of_hasRoom roomy)
    exact ⟨_, .empty, ByteArray.append_empty.symm, congrArg (fun seen => seen.2.taken) seen⟩
  · rw [Sink.HasRoom] at roomy
    obtain ⟨room, limited, short⟩ : ∃ room, sink.room = some room ∧
        room < (Sink.bytesOf (request.text format options)).size := by
      simpa only [Classical.not_forall, exists_prop, Nat.not_le] using roomy
    rw [text] at short
    obtain ⟨_, refused⟩ := Sink.offer_of_lt limited short
    obtain ⟨_, -, seen⟩ := Renderer.document_of_refused refused
    exact ⟨_, _, (Sink.cut_at _ (Nat.le_of_lt short)).symm,
      congrArg (fun seen => seen.2.taken) seen⟩

/-- Truncation shows. A document in memory goes on behind no document of the same format and
options, so no proper part from its beginning is a document, and what an empty sink has taken of
it is one only when that is all of it. An end tag of the root stands in an XML document only at
its end, and so does a line feed in a compact JSON document; documents in compact JSON that stand
one behind another come apart at their line feeds. -/
theorem truncation_shows (format : Format) (options : Options) :
    (∀ request : Request, ∃ bytes, request.render format options = .ok bytes ∧
      (∀ (other : Request) rest, other.render format options = .ok (bytes ++ rest) → rest = .empty) ∧
      (∀ (other : Request), ∀ length < bytes.size,
        other.render format options ≠ .ok (bytes.extract 0 length)) ∧
      (∀ (other : Request) (sink : Sink), sink.taken = .empty →
        let taken := ((Renderer.create format options sink).document request).2.sink.taken
        other.render format options = .ok taken → taken = bytes) ∧
      (format = .xml → EndsOnce (Sink.bytesOf "</extension>".toList) bytes) ∧
      (format = .json → options.indent = none → EndsOnce (Sink.bytesOf ['\n']) bytes)) ∧
    (options.indent = none → ∃ line : Request → List Char,
      (∀ request : Request, request.render .json options =
        .ok (Sink.bytesOf (line request ++ ['\n']))) ∧
      ∀ requests : List Request, Text.split '\n' (requests.flatMap fun request => line request ++ ['\n']) =
        requests.map line ++ [[]]) := by
  have whole (request other : Request) {piece rest : ByteArray}
      (cut : Sink.bytesOf (request.text format options) = piece ++ rest)
      (rendered : other.render format options = .ok piece) : rest = .empty := by
    rw [render_eq] at rendered
    rw [← Except.ok.inj rendered] at cut
    exact render_continued other request format options (by rw [render_eq, cut])
  constructor
  · intro request
    refine ⟨_, request.render_eq format options, ?_, ?_, ?_, ?_, ?_⟩
    · exact fun other rest => request.render_continued other format options
    · intro other length short rendered
      have nothing := whole request other (Sink.cut_at _ (Nat.le_of_lt short)).symm rendered
      have size := congrArg ByteArray.size nothing
      rw [ByteArray.size_extract, ByteArray.size_empty] at size
      omega
    · intro other sink fresh taken rendered
      obtain ⟨piece, rest, cut, after⟩ := request.document_taken format options sink
      rw [fresh, ByteArray.empty_append] at after
      have same : taken = piece := after
      rw [same] at rendered ⊢
      rw [cut, whole request other cut rendered, ByteArray.append_empty]
    · rintro rfl
      exact request.endsOnce_xml options
    · rintro rfl compact
      exact request.endsOnce_json compact
  · intro compact
    refine ⟨fun request => request.content.json.print none 0, fun request => ?_, fun requests => ?_⟩
    · rw [render_eq, text_json, compact]
    · refine Text.split_lines fun request _ => ?_
      exact Json.line_feed_not_mem request.content_proper.plain 0

end Request

end ComponentDocs
