import ComponentDocs.Proofs.Document.Proper

/-! Grammars of documents as data. A rule says what an element may hold; content under the
rule makes up an element that the rule allows. -/
namespace ComponentDocs

open Markup (Node)

/-- Whether a member of a record has to be there. -/
inductive Presence
  | always
  | maybe
  | never
deriving DecidableEq

/-- `note` is a text that may be absent, and `label` a word that may be absent. Both have
their place also when absent. `inhabited` lists have an item. -/
inductive Rule
  | text
  | note
  | word (spellings : List String)
  | label (spellings : List String)
  | flag (values : List Bool)
  | count
  | record (rules : List (String × Presence × Rule))
  | list (item : String) (inhabited : Bool) (rule : Rule)

namespace Rule

mutual

/-- What an element may hold: characters, or elements and no characters between them. -/
def Allows : Rule → List Node → Prop
  | .text, nodes | .note, nodes => ∃ value, nodes = Node.ofText value
  | .word spellings, nodes => ∃ value ∈ spellings, nodes = Node.ofText value
  | .label spellings, nodes => nodes = [] ∨ ∃ value ∈ spellings, nodes = Node.ofText value
  | .flag values, nodes =>
    ∃ value ∈ values, nodes = Node.ofText (if value then "true" else "false")
  | .count, nodes =>
    ∃ value < UInt32.size, nodes = Node.ofText (String.ofList (Nat.toDigits 10 value))
  | .record rules, nodes => AllowsMembers rules nodes
  | .list item inhabited rule, nodes =>
    (inhabited → nodes ≠ []) ∧ ∀ node ∈ nodes, ∃ held, node = .element item held ∧ rule.Allows held

/-- The elements of a record, in the order of its rules. -/
def AllowsMembers : List (String × Presence × Rule) → List Node → Prop
  | [], nodes => nodes = []
  | (name, presence, rule) :: rules, nodes =>
    (presence ≠ .always ∧ AllowsMembers rules nodes) ∨
      (presence ≠ .never ∧ ∃ held others, nodes = .element name held :: others ∧
        rule.Allows held ∧ AllowsMembers rules others)

end

mutual

def Admits : Rule → Content → Prop
  | .text, .text _ => True
  | .note, .text _ | .note, .missing => True
  | .word spellings, .text value => value ∈ spellings
  | .label _, .missing => True
  | .label spellings, .text value => value ∈ spellings
  | .flag values, .flag value => value ∈ values
  | .count, .count value => value < UInt32.size
  | .record rules, .record members => AdmitsMembers rules members
  | .list item inhabited rule, .list name items =>
    name = item ∧ (inhabited → items ≠ []) ∧ ∀ content ∈ items, rule.Admits content
  | _, _ => False

def AdmitsMembers : List (String × Presence × Rule) → List (String × Content) → Prop
  | [], members => members = []
  | (name, presence, rule) :: rules, members =>
    (presence ≠ .always ∧ AdmitsMembers rules members) ∨
      (presence ≠ .never ∧ ∃ content others, members = (name, content) :: others ∧
        rule.Admits content ∧ AdmitsMembers rules others)

end

theorem admits_flag {values : List Bool} {content : Content}
    (admits : (Rule.flag values).Admits content) : ∃ value ∈ values, content = .flag value := by
  cases content with
  | flag value => exact ⟨value, by simpa only [Admits] using admits, rfl⟩
  | _ => simp only [Admits] at admits

theorem admits_number {content : Content} (admits : Rule.count.Admits content) :
    ∃ value < UInt32.size, content = .count value := by
  cases content with
  | count value => exact ⟨value, by simpa only [Admits] using admits, rfl⟩
  | _ => simp only [Admits] at admits

theorem admits_members {rules : List (String × Presence × Rule)} {content : Content}
    (admits : (Rule.record rules).Admits content) :
    ∃ members, content = .record members ∧ AdmitsMembers rules members := by
  cases content with
  | record members => exact ⟨members, rfl, by simpa only [Admits] using admits⟩
  | _ => simp only [Admits] at admits

theorem admits_items {item : String} {inhabited : Bool} {rule : Rule} {content : Content}
    (admits : (Rule.list item inhabited rule).Admits content) :
    ∃ items, content = .list item items ∧ (inhabited → items ≠ []) ∧
      ∀ content ∈ items, rule.Admits content := by
  cases content with
  | list name items =>
    simp only [Admits] at admits
    obtain ⟨rfl, some, each⟩ := admits
    exact ⟨items, rfl, some, each⟩
  | _ => simp only [Admits] at admits

mutual

theorem allows_of_admits (rule : Rule) {content : Content} (admits : rule.Admits content) :
    rule.Allows (content.nodes none) := by
  cases rule with
  | text =>
    cases content with
    | text value => exact ⟨value, rfl⟩
    | _ => simp only [Admits] at admits
  | note =>
    cases content with
    | text value => exact ⟨value, rfl⟩
    | missing => exact ⟨"", rfl⟩
    | _ => simp only [Admits] at admits
  | word spellings =>
    cases content with
    | text value => exact ⟨value, by simpa only [Admits] using admits, rfl⟩
    | _ => simp only [Admits] at admits
  | label spellings =>
    cases content with
    | text value => exact .inr ⟨value, by simpa only [Admits] using admits, rfl⟩
    | missing => exact .inl rfl
    | _ => simp only [Admits] at admits
  | flag values =>
    obtain ⟨value, inside, rfl⟩ := admits_flag admits
    exact ⟨value, inside, rfl⟩
  | count =>
    obtain ⟨value, bound, rfl⟩ := admits_number admits
    exact ⟨value, bound, rfl⟩
  | record rules =>
    obtain ⟨members, rfl, admits⟩ := admits_members admits
    rw [Content.nodes_record]
    exact allowsMembers_of_admits rules admits
  | list item inhabited rule =>
    obtain ⟨items, rfl, some, each⟩ := admits_items admits
    rw [Content.nodes_list]
    refine ⟨fun needed => by simpa using some needed, fun node inside => ?_⟩
    obtain ⟨content, there, rfl⟩ := List.mem_map.mp inside
    exact ⟨_, rfl, allows_of_admits rule (each content there)⟩

theorem allowsMembers_of_admits (rules : List (String × Presence × Rule))
    {members : List (String × Content)} (admits : AdmitsMembers rules members) :
    AllowsMembers rules (members.map fun member => member.2.element none member.1) := by
  cases rules with
  | nil =>
    obtain rfl := admits
    rfl
  | cons first rules =>
    obtain ⟨name, presence, rule⟩ := first
    rcases admits with ⟨absent, admits⟩ | ⟨present, content, others, rfl, admits, rest⟩
    · exact .inl ⟨absent, allowsMembers_of_admits rules admits⟩
    · exact .inr ⟨present, _, _, rfl, allows_of_admits rule admits, allowsMembers_of_admits rules rest⟩

end

/-- What stands in a place of a record, under the rule of that place. -/
def Fits (presence : Presence) (rule : Rule) : Option Content → Prop
  | none => presence ≠ .always
  | some content => presence ≠ .never ∧ rule.Admits content

def FitsAll : List (String × Presence × Rule) → Slots → Prop
  | [], slots => slots = []
  | (name, presence, rule) :: rules, slots =>
    ∃ place others, slots = (name, place) :: others ∧ Fits presence rule place ∧ FitsAll rules others

theorem fitsAll_cons {name : String} {presence : Presence} {rule : Rule}
    {rules : List (String × Presence × Rule)} {place : Option Content} {slots : Slots}
    (fits : Fits presence rule place) (others : FitsAll rules slots) :
    FitsAll ((name, presence, rule) :: rules) ((name, place) :: slots) :=
  ⟨place, slots, rfl, fits, others⟩

theorem fitsAll_append {first second : List (String × Presence × Rule)} {slots others : Slots}
    (before : FitsAll first slots) (behind : FitsAll second others) :
    FitsAll (first ++ second) (slots ++ others) := by
  induction first generalizing slots with
  | nil =>
    obtain rfl := before
    exact behind
  | cons rule rules ih =>
    obtain ⟨place, slots, rfl, fits, before⟩ := before
    exact fitsAll_cons fits (ih before)

theorem admits_present {rules : List (String × Presence × Rule)} {slots : Slots}
    (fits : FitsAll rules slots) : AdmitsMembers rules (Content.present slots) := by
  induction rules generalizing slots with
  | nil =>
    obtain rfl := fits
    rfl
  | cons rule rules ih =>
    obtain ⟨place, others, rfl, fits, rest⟩ := fits
    have rest := ih rest
    cases place with
    | none => exact .inl ⟨fits, rest⟩
    | some content => exact .inr ⟨fits.1, content, _, rfl, fits.2, rest⟩

theorem admits_count {rule : Rule} {value : Nat} (admits : rule.Admits (.count value)) :
    value < UInt32.size := by
  cases rule with
  | count => simpa only [Admits] using admits
  | _ => simp only [Admits] at admits

theorem admits_record {rule : Rule} {members : List (String × Content)}
    (admits : rule.Admits (.record members)) :
    ∃ rules, rule = .record rules ∧ AdmitsMembers rules members := by
  cases rule with
  | record rules => exact ⟨rules, rfl, by simpa only [Admits] using admits⟩
  | _ => simp only [Admits] at admits

theorem admits_list {rule : Rule} {item : String} {items : List Content}
    (admits : rule.Admits (.list item items)) :
    ∃ inhabited inner, rule = .list item inhabited inner ∧ ∀ content ∈ items, inner.Admits content := by
  cases rule with
  | list name inhabited inner =>
    simp only [Admits] at admits
    obtain ⟨rfl, -, each⟩ := admits
    exact ⟨inhabited, inner, rfl, each⟩
  | _ => simp only [Admits] at admits

theorem names_sublist {rules : List (String × Presence × Rule)} {members : List (String × Content)}
    (admits : AdmitsMembers rules members) :
    (members.map Prod.fst).Sublist (rules.map Prod.fst) := by
  induction rules generalizing members with
  | nil =>
    obtain rfl := admits
    exact .slnil
  | cons rule rules ih =>
    rcases admits with ⟨-, admits⟩ | ⟨-, content, others, rfl, -, rest⟩
    · exact (ih admits).cons _
    · exact (ih rest).cons_cons _

theorem member_rule {rules : List (String × Presence × Rule)} {members : List (String × Content)}
    (admits : AdmitsMembers rules members) {member : String × Content} (inside : member ∈ members) :
    ∃ presence rule, (member.1, presence, rule) ∈ rules ∧ rule.Admits member.2 := by
  induction rules generalizing members with
  | nil =>
    obtain rfl := admits
    cases inside
  | cons first rules ih =>
    rcases admits with ⟨-, admits⟩ | ⟨-, content, others, rfl, admits, rest⟩
    · obtain ⟨presence, rule, there, admits⟩ := ih admits inside
      exact ⟨presence, rule, List.mem_cons_of_mem _ there, admits⟩
    · rcases List.mem_cons.mp inside with rfl | inside
      · exact ⟨_, _, List.mem_cons_self, admits⟩
      · obtain ⟨presence, rule, there, admits⟩ := ih rest inside
        exact ⟨presence, rule, List.mem_cons_of_mem _ there, admits⟩

theorem members_ne_nil {rules : List (String × Presence × Rule)} {members : List (String × Content)}
    (admits : AdmitsMembers rules members) (needed : ∃ rule ∈ rules, rule.2.1 = .always) :
    members ≠ [] := by
  rintro rfl
  obtain ⟨rule, inside, always⟩ := needed
  induction rules with
  | nil => cases inside
  | cons first rules ih =>
    rcases admits with ⟨absent, admits⟩ | ⟨-, content, others, impossible, -⟩
    · rcases List.mem_cons.mp inside with rfl | inside
      · exact absent always
      · exact ih admits inside
    · cases impossible

/-- Whether all content under a rule is proper. -/
def check : Nat → String → Rule → Bool
  | levels + 1, _, .record rules =>
    decide (rules.map Prod.fst).Nodup && rules.any (fun rule => rule.2.1 = .always) &&
      rules.all fun rule => Markup.isName rule.1.toList && check levels rule.1 rule.2.2
  | levels + 1, name, .list item _ rule =>
    item = singular name && Markup.isName item.toList && check levels item rule
  | 0, _, .record _ | 0, _, .list _ _ _ => false
  | _, _, _ => true

theorem check_record {levels : Nat} {name : String} {rules : List (String × Presence × Rule)}
    (checked : check levels name (.record rules)) :
    ∃ inner, levels = inner + 1 ∧ (rules.map Prod.fst).Nodup ∧
      (∃ rule ∈ rules, rule.2.1 = .always) ∧
      ∀ rule ∈ rules, Markup.isName rule.1.toList ∧ check inner rule.1 rule.2.2 := by
  cases levels with
  | zero => simp only [check, Bool.false_eq_true] at checked
  | succ inner =>
    simp only [check, Bool.and_eq_true, decide_eq_true_eq, List.any_eq_true, List.all_eq_true]
      at checked
    exact ⟨inner, rfl, checked.1.1, checked.1.2, checked.2⟩

/-- Beyond one member that is always there, the presence of members does not count. -/
theorem check_of_same {levels : Nat} {name : String} {rules others : List (String × Presence × Rule)}
    (same : (rules.map fun rule => (rule.1, rule.2.2)) = others.map fun rule => (rule.1, rule.2.2))
    (needed : others.any fun rule => rule.2.1 = .always) (checked : check levels name (.record rules)) :
    check levels name (.record others) := by
  cases levels with
  | zero => simp only [check, Bool.false_eq_true] at checked
  | succ inner =>
    have names := congrArg (List.map Prod.fst) same
    have all := congrArg (List.all · fun rule => Markup.isName rule.1.toList && check inner rule.1 rule.2)
      same
    simp only [List.map_map, Function.comp_def, List.all_map] at names all
    simp only [check, Bool.and_eq_true, needed, ← names, ← all] at checked ⊢
    exact ⟨⟨checked.1.1, trivial⟩, checked.2⟩

theorem check_list {levels : Nat} {name item : String} {inhabited : Bool} {rule : Rule}
    (checked : check levels name (.list item inhabited rule)) :
    ∃ inner, levels = inner + 1 ∧ item = singular name ∧ Markup.isName item.toList ∧
      check inner item rule := by
  cases levels with
  | zero => simp only [check, Bool.false_eq_true] at checked
  | succ inner =>
    simp only [check, Bool.and_eq_true, decide_eq_true_eq] at checked
    exact ⟨inner, rfl, checked.1.1, checked.1.2, checked.2⟩

theorem proper_of_admits {levels : Nat} {name : String} {rule : Rule}
    (checked : rule.check levels name) {content : Content} (admits : rule.Admits content) :
    content.Proper levels name := by
  induction levels using Nat.strongRecOn generalizing name rule content with
  | ind levels ih =>
    cases content with
    | text | missing | flag => constructor
    | count value =>
      exact .count (Nat.lt_trans (admits_count admits) (by decide))
    | record members =>
      obtain ⟨rules, rfl, admits⟩ := admits_record admits
      obtain ⟨inner, rfl, distinct, needed, each⟩ := check_record checked
      have known (member : String × Content) (inside : member ∈ members) :
          Markup.isName member.1.toList ∧ member.2.Proper inner member.1 := by
        obtain ⟨presence, rule, there, admits⟩ := member_rule admits inside
        obtain ⟨named, checked⟩ := each _ there
        exact ⟨named, ih inner (Nat.lt_succ_self inner) checked admits⟩
      exact .record (members_ne_nil admits needed) ((names_sublist admits).nodup distinct)
        (fun member inside => (known member inside).1) (fun member inside => (known member inside).2)
    | list item items =>
      obtain ⟨inhabited, rule, rfl, each⟩ := admits_list admits
      obtain ⟨inner, rfl, rfl, named, checked⟩ := check_list checked
      exact .list named fun content inside =>
        ih inner (Nat.lt_succ_self inner) checked (each content inside)

end Rule

end ComponentDocs
