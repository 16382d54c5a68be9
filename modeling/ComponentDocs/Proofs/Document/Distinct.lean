import ComponentDocs.Proofs.Document.Parity
import ComponentDocs.Proofs.Vocabulary

/-! What a format tells apart. JSON tells any two contents of a document apart; XML does so
but for texts that are absent where another document has an empty one. -/
namespace ComponentDocs

open Markup (Node)

theorem map_eq_of_map_eq {α β γ : Type} {code : α → β} (shown : α → γ) {first second : List α}
    (tells : ∀ value ∈ first, ∀ other ∈ second, code value = code other → shown value = shown other)
    (same : first.map code = second.map code) : first.map shown = second.map shown := by
  induction first generalizing second with
  | nil =>
    obtain rfl := List.map_eq_nil_iff.mp same.symm
    rfl
  | cons value first ih =>
    cases second with
    | nil => cases same
    | cons other second =>
      obtain ⟨head, rest⟩ := List.cons.inj same
      rw [List.map_cons, List.map_cons, tells value (by simp) other (by simp) head,
        ih (fun value inside other there => tells value (by simp [inside]) other (by simp [there])) rest]

theorem Markup.Node.ofText_injective {first second : String}
    (same : Node.ofText first = Node.ofText second) : first = second := by
  have characters : first.toList = second.toList :=
    (List.map_inj_right fun _ _ equal => Node.character.inj equal).mp same
  exact String.toList_inj.mp characters

namespace Content

mutual

/-- The content as far as a format displays it. -/
def shownIn (format : Format) : Content → Content
  | .text value => .text value
  | .missing =>
    match format with
    | .xml => .text ""
    | .json => .missing
  | .flag value => .flag value
  | .count value => .count value
  | .record members => .record (membersShownIn format members)
  | .list item items => .list item (itemsShownIn format items)

def membersShownIn (format : Format) : List (String × Content) → List (String × Content)
  | [] => []
  | (name, content) :: members => (name, content.shownIn format) :: membersShownIn format members

def itemsShownIn (format : Format) : List Content → List Content
  | [] => []
  | content :: items => content.shownIn format :: itemsShownIn format items

end

theorem itemsShownIn_eq_map (format : Format) (items : List Content) :
    itemsShownIn format items = items.map (shownIn format) := by
  induction items with
  | nil => rfl
  | cons content items ih => simp only [itemsShownIn, List.map_cons, ih]

mutual

/-- XML displays no more than that, whatever the indentation. -/
theorem nodes_shownIn (content : Content) (margin : Option Markup.Margin) :
    (content.shownIn .xml).nodes margin = content.nodes margin := by
  cases content with
  | text | missing | flag | count => rfl
  | record members =>
    simp only [shownIn, nodes, memberNodes_shownIn members]
  | list item items =>
    cases items with
    | nil => rfl
    | cons first items =>
      have same := itemNodes_shownIn item (first :: items) (Markup.inner margin)
      simp only [itemsShownIn] at same
      simp only [shownIn, itemsShownIn, nodes, same]

theorem memberNodes_shownIn (members : List (String × Content)) (margin : Option Markup.Margin) :
    memberNodes margin (membersShownIn .xml members) = memberNodes margin members := by
  cases members with
  | nil => rfl
  | cons member members =>
    simp only [membersShownIn, memberNodes, nodes_shownIn member.2, memberNodes_shownIn members]

theorem itemNodes_shownIn (item : String) (items : List Content) (margin : Option Markup.Margin) :
    itemNodes margin item (itemsShownIn .xml items) = itemNodes margin item items := by
  cases items with
  | nil => rfl
  | cons content items =>
    simp only [itemsShownIn, itemNodes, nodes_shownIn content, itemNodes_shownIn item items]

end

mutual

/-- JSON displays everything. -/
theorem shownIn_json (content : Content) : content.shownIn .json = content := by
  cases content with
  | text | missing | flag | count => rfl
  | record members => rw [shownIn, membersShownIn_json members]
  | list item items => rw [shownIn, itemsShownIn_json items]

theorem membersShownIn_json (members : List (String × Content)) :
    membersShownIn .json members = members := by
  cases members with
  | nil => rfl
  | cons member members => rw [membersShownIn, shownIn_json member.2, membersShownIn_json members]

theorem itemsShownIn_json (items : List Content) : itemsShownIn .json items = items := by
  cases items with
  | nil => rfl
  | cons content items => rw [itemsShownIn, shownIn_json content, itemsShownIn_json items]

end

theorem eq_of_json {levels : Nat} {name : String} {first second : Content}
    (proper : first.Proper levels name) (proper' : second.Proper levels name)
    (same : first.json = second.json) : first = second := by
  induction proper generalizing second with
  | text =>
    cases proper' with
    | text => exact congrArg _ (Json.string.inj same)
    | _ => cases same
  | missing =>
    cases proper' with
    | missing => rfl
    | _ => cases same
  | flag =>
    cases proper' with
    | flag => exact congrArg _ (Json.bool.inj same)
    | _ => cases same
  | count =>
    cases proper' with
    | count => exact congrArg _ (Json.Number.natural.inj (Json.number.inj same))
    | _ => cases same
  | @record levels name members _ _ _ _ ih =>
    cases proper' with
    | @record _ _ members' _ _ _ inside' =>
      have same := Json.object.inj same
      rw [jsonMembers_eq_map, jsonMembers_eq_map] at same
      have members := map_eq_of_map_eq id (fun member inside other there equal => by
        obtain ⟨named, value⟩ := Prod.mk.inj equal
        have proper := inside' other there
        rw [← named] at proper
        exact Prod.ext named (ih member inside proper value)) same
      simpa only [List.map_id] using congrArg Content.record members
    | _ => cases same
  | @list levels name items _ _ ih =>
    cases proper' with
    | @list _ _ items' _ inside' =>
      have same := Json.array.inj same
      rw [jsonItems_eq_map, jsonItems_eq_map] at same
      have items := map_eq_of_map_eq id (fun content inside other there equal =>
        ih content inside (inside' other there) equal) same
      simpa only [List.map_id] using congrArg (Content.list _) items
    | _ => cases same

/-- Content that XML displays as one text. -/
def IsText (content : Content) (value : String) : Prop :=
  content.shownIn .xml = .text value ∧ content.nodes none = Node.ofText value

theorem isText_text (value : String) : IsText (.text value) value := ⟨rfl, rfl⟩

theorem isText_missing : IsText .missing "" := ⟨rfl, rfl⟩

theorem IsText.shownIn_eq {first second : Content} {value other : String} (text : first.IsText value)
    (text' : second.IsText other) (same : first.nodes none = second.nodes none) :
    first.shownIn .xml = second.shownIn .xml := by
  have values : Node.ofText value = Node.ofText other := text.2.symm.trans (same.trans text'.2)
  rw [text.1, text'.1, Node.ofText_injective values]

end Content

namespace Rule

open Content

/-- The rules of texts, whether or not these may be absent. -/
def IsTextual : Rule → Prop
  | .text | .note | .word _ | .label _ => True
  | _ => False

theorem isText_of_admits {rule : Rule} (textual : rule.IsTextual) {content : Content}
    (admits : rule.Admits content) : ∃ value, content.IsText value := by
  cases content with
  | text value => exact ⟨value, isText_text value⟩
  | missing => exact ⟨"", isText_missing⟩
  | _ => cases rule <;> first | exact textual.elim | simp only [Admits] at admits

theorem text_shownIn_eq {rule : Rule} (textual : rule.IsTextual) {first second : Content}
    (admits : rule.Admits first) (admits' : rule.Admits second)
    (same : first.nodes none = second.nodes none) : first.shownIn .xml = second.shownIn .xml := by
  obtain ⟨value, text⟩ := isText_of_admits textual admits
  obtain ⟨other, text'⟩ := isText_of_admits textual admits'
  exact text.shownIn_eq text' same

theorem elements_ne_of_not_mem {rules : List (String × Presence × Rule)}
    {members : List (String × Content)} (admits : AdmitsMembers rules members) {name : String}
    (unknown : name ∉ rules.map Prod.fst) (content : Content) (others : List (String × Content)) :
    (members.map fun member => member.2.element none member.1) ≠
      ((name, content) :: others).map fun member => member.2.element none member.1 := by
  intro same
  cases members with
  | nil => cases same
  | cons member members =>
    have named : member.1 = name := (Node.element.inj (List.cons.inj same).1).1
    exact unknown ((names_sublist admits).mem (named ▸ List.mem_cons_self))

theorem membersShownIn_eq {rules : List (String × Presence × Rule)}
    (distinct : (rules.map Prod.fst).Nodup)
    (tells : ∀ rule ∈ rules, ∀ {first second : Content}, rule.2.2.Admits first →
      rule.2.2.Admits second → first.nodes none = second.nodes none →
      first.shownIn .xml = second.shownIn .xml)
    {first second : List (String × Content)} (admits : AdmitsMembers rules first)
    (admits' : AdmitsMembers rules second)
    (same : (first.map fun member => member.2.element none member.1) =
      second.map fun member => member.2.element none member.1) :
    membersShownIn .xml first = membersShownIn .xml second := by
  induction rules generalizing first second with
  | nil =>
    obtain rfl := admits
    obtain rfl := admits'
    rfl
  | cons rule rules ih =>
    obtain ⟨name, presence, rule⟩ := rule
    obtain ⟨unknown, distinct⟩ := List.nodup_cons.mp distinct
    have ih := @ih distinct fun rule inside => tells rule (List.mem_cons_of_mem _ inside)
    rcases admits with ⟨-, admits⟩ | ⟨-, content, others, rfl, admits, rest⟩
    · rcases admits' with ⟨-, admits'⟩ | ⟨-, content', others', rfl, -, -⟩
      · exact ih admits admits' same
      · exact absurd same (elements_ne_of_not_mem admits unknown content' others')
    · rcases admits' with ⟨-, admits'⟩ | ⟨-, content', others', rfl, admits', rest'⟩
      · exact absurd same.symm (elements_ne_of_not_mem admits' unknown content others)
      · obtain ⟨head, same⟩ := List.cons.inj same
        have head := tells _ List.mem_cons_self admits admits' (Node.element.inj head).2
        simp only [membersShownIn, head, ih rest rest' same]

theorem shownIn_eq_of_nodes {levels : Nat} {name : String} {rule : Rule}
    (checked : rule.check levels name) {first second : Content} (admits : rule.Admits first)
    (admits' : rule.Admits second) (same : first.nodes none = second.nodes none) :
    first.shownIn .xml = second.shownIn .xml := by
  -- On the levels, not on the rule: a rule stands in a list of rules of its own type.
  induction levels using Nat.strongRecOn generalizing name rule first second with
  | ind levels ih =>
    cases rule with
    | text | note | word | label =>
      exact text_shownIn_eq (by simp only [IsTextual]) admits admits' same
    | flag values =>
      obtain ⟨value, -, rfl⟩ := admits_flag admits
      obtain ⟨other, -, rfl⟩ := admits_flag admits'
      have spelled := Node.ofText_injective same
      cases value <;> cases other <;> first | rfl | exact absurd spelled (by decide)
    | count =>
      obtain ⟨value, -, rfl⟩ := admits_number admits
      obtain ⟨other, -, rfl⟩ := admits_number admits'
      have digits := String.ofList_injective (Node.ofText_injective same)
      have value_eq := congrArg (fun digits => Nat.ofDigitChars 10 digits 0) digits
      simp only [Nat.ofDigitChars_ten_toDigits] at value_eq
      rw [value_eq]
    | record rules =>
      obtain ⟨members, rfl, admits⟩ := admits_members admits
      obtain ⟨members', rfl, admits'⟩ := admits_members admits'
      obtain ⟨inner, rfl, distinct, -, each⟩ := check_record checked
      rw [nodes_record, nodes_record] at same
      refine congrArg Content.record (membersShownIn_eq distinct ?_ admits admits' same)
      intro rule inside first second admits admits' same
      exact ih inner (Nat.lt_succ_self inner) (each rule inside).2 admits admits' same
    | list item inhabited rule =>
      obtain ⟨items, rfl, -, each⟩ := admits_items admits
      obtain ⟨items', rfl, -, each'⟩ := admits_items admits'
      obtain ⟨inner, rfl, -, -, checked⟩ := check_list checked
      rw [nodes_list, nodes_list] at same
      simp only [shownIn, itemsShownIn_eq_map]
      refine congrArg _ (map_eq_of_map_eq _ (fun content inside other there same => ?_) same)
      exact ih inner (Nat.lt_succ_self inner) checked (each content inside) (each' other there)
        (Node.element.inj same).2

end Rule

namespace Request

open Content

theorem nodes_content (request : Request) : ∃ others,
    request.content.nodes none =
      .element "name" (Node.ofText request.component.className) ::
        .element "type" (Node.ofText (Vocabulary.name request.component.category)) :: others := by
  rw [content, View.content, nodes_record]
  exact ⟨_, rfl⟩

/-- Root elements with equal nodes are of the same category, so under the same grammar. -/
theorem shownIn_eq_of_nodes {first second : Request}
    (same : first.content.nodes none = second.content.nodes none) :
    first.content.shownIn .xml = second.content.shownIn .xml := by
  have category : first.component.category = second.component.category := by
    obtain ⟨_, nodes⟩ := first.nodes_content
    obtain ⟨_, nodes'⟩ := second.nodes_content
    rw [nodes, nodes'] at same
    have type := (List.cons.inj (List.cons.inj same).2).1
    exact Vocabulary.name_inj.mp (Node.ofText_injective (Node.element.inj type).2)
  have admits := Rule.admits_content second
  rw [← category] at admits
  exact Rule.shownIn_eq_of_nodes (Rule.extension_check _) (Rule.admits_content first) admits same

/-- The texts of two documents are equal exactly if their contents are displayed alike. -/
theorem text_eq_iff (format : Format) (options : Options) (first second : Request) :
    first.text format options = second.text format options ↔
      first.content.shownIn format = second.content.shownIn format := by
  cases format with
  | xml =>
    rw [text_xml, text_xml]
    constructor
    · intro same
      have trees := Node.print_injective (first.root_named _) (second.root_named _)
        (List.append_cancel_left same)
      have trimmed := congrArg Node.trimmed (Node.element.inj trees).2
      rw [trimAll_nodes first.content_proper, trimAll_nodes second.content_proper] at trimmed
      exact shownIn_eq_of_nodes trimmed
    · intro same
      have nodes := nodes_shownIn first.content (rootMargin options)
      rw [same, nodes_shownIn] at nodes
      rw [element, element, nodes]
  | json =>
    rw [shownIn_json, shownIn_json]
    constructor
    · intro same
      have parsed := first.parse_text_json options
      rw [same, second.parse_text_json options] at parsed
      exact eq_of_json first.content_proper second.content_proper (Except.ok.inj parsed).symm
    · intro same
      simp only [text, offers, same]

theorem render_eq_iff (format : Format) (options : Options) (first second : Request) :
    first.render format options = second.render format options ↔
      first.content.shownIn format = second.content.shownIn format := by
  rw [render_eq, render_eq, Except.ok.injEq, ← text_eq_iff format options]
  exact ⟨Sink.bytesOf_injective, congrArg Sink.bytesOf⟩

end Request

end ComponentDocs
