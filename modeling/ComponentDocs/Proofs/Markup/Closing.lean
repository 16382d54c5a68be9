import ComponentDocs.Proofs.Markup.Reader

/-! Where an end tag can stand in a text of markup. An opening angle bracket begins a token,
whatever texts hold, so the end tag of an element stands only where that element ends. -/
namespace ComponentDocs.Markup

theorem not_mem_name {name : List Char} (named : isName name) {c : Char} (other : c.isAlpha = false) :
    c ∉ name := by
  intro inside
  simp only [isName, Bool.and_eq_true, List.all_eq_true] at named
  rw [named.2 c inside] at other
  cases other

/-- Texts that end where a character stands first are told apart by what follows it. -/
theorem cut_unique {c : Char} {first second rest others : List Char} (free : c ∉ first)
    (clear : c ∉ second) (same : first ++ c :: rest = second ++ c :: others) :
    first = second ∧ rest = others := by
  induction first generalizing second with
  | nil =>
    cases second with
    | nil => exact ⟨rfl, (List.cons.inj same).2⟩
    | cons d second => exact absurd ((List.cons.inj same).1 ▸ List.mem_cons_self) clear
  | cons d first ih =>
    cases second with
    | nil => exact absurd ((List.cons.inj same).1.symm ▸ List.mem_cons_self) free
    | cons e second =>
      obtain ⟨rfl, behind⟩ := List.cons.inj same
      obtain ⟨rfl, rfl⟩ := ih (fun inside => free (List.mem_cons_of_mem _ inside))
        (fun inside => clear (List.mem_cons_of_mem _ inside)) behind
      exact ⟨rfl, rfl⟩

/-- What stands nowhere before the last place is found there only. -/
theorem eq_nil_of_concat {α : Type} {items earlier later : List α} {last : α} (absent : last ∉ items)
    (same : items ++ [last] = earlier ++ last :: later) : later = [] := by
  rcases List.append_eq_append_iff.mp same with ⟨between, -, whole⟩ | ⟨between, rfl, whole⟩
  · have sizes := congrArg List.length whole
    simp only [List.length_append, List.length_cons, List.length_nil] at sizes
    exact List.eq_nil_of_length_eq_zero (by omega)
  · cases between with
    | nil => exact (List.cons.inj whole).2
    | cons item others =>
      obtain rfl : last = item := (List.cons.inj whole).1
      exact absurd (List.mem_append_right earlier List.mem_cons_self) absent

namespace Token

theorem not_mem_tail {token : Token} (named : token.Named) : '<' ∉ token.print.tail := by
  cases token with
  | declaration => decide
  | start name =>
    have free : '<' ∉ name.toList := not_mem_name named (by decide)
    simp [print, startTag, free]
  | finish name =>
    have free : '<' ∉ name.toList := not_mem_name named (by decide)
    simp [print, endTag, free]
  | character c =>
    rw [print, escapeChar]
    split
    · decide
    split
    · decide
    split
    · decide
    · exact List.not_mem_nil

theorem eq_finish {token : Token} (named : token.Named) {name : String} (known : isName name.toList)
    {rest back : List Char} (same : token.print ++ rest = endTag name ++ back) :
    token = .finish name ∧ rest = back := by
  cases token with
  | declaration =>
    have second := congrArg (fun text => text[1]?) same
    cases second
  | start other =>
    have free : '/' ∉ other.toList := not_mem_name named (by decide)
    simp only [print, startTag, endTag, List.cons_append, List.cons.injEq, true_and] at same
    rcases letters : other.toList with _ | ⟨c, letters'⟩
    · have named : isName other.toList := named
      rw [letters] at named
      cases named
    · rw [letters] at same free
      obtain ⟨rfl, -⟩ := List.cons.inj same
      exact absurd List.mem_cons_self free
  | finish other =>
    simp only [print, endTag, List.cons_append, List.append_assoc, List.nil_append, List.cons.injEq,
      true_and] at same
    obtain ⟨letters, rfl⟩ := cut_unique (not_mem_name named (by decide))
      (not_mem_name known (by decide)) same
    rw [String.toList_inj.mp letters]
    exact ⟨rfl, rfl⟩
  | character c =>
    rw [print, escapeChar] at same
    split at same
    · cases same
    split at same
    · cases same
    split at same
    · cases same
    · next less _ _ => exact absurd (List.cons.inj same).1 less

theorem exists_finish {tokens : List Token} (named : ∀ token ∈ tokens, token.Named) {name : String}
    (known : isName name.toList) {front back : List Char}
    (cut : tokens.flatMap print = front ++ (endTag name ++ back)) :
    ∃ earlier later, tokens = earlier ++ .finish name :: later ∧ later.flatMap print = back := by
  induction tokens generalizing front with
  | nil => simp [endTag] at cut
  | cons token tokens ih =>
    have first := named token List.mem_cons_self
    have behind {between : List Char} (cut : tokens.flatMap print = between ++ (endTag name ++ back)) :
        ∃ earlier later, token :: tokens = earlier ++ .finish name :: later ∧
          later.flatMap print = back := by
      obtain ⟨earlier, later, rfl, printed⟩ :=
        ih (fun other inside => named other (List.mem_cons_of_mem _ inside)) cut
      exact ⟨token :: earlier, later, rfl, printed⟩
    rw [List.flatMap_cons] at cut
    rcases List.append_eq_append_iff.mp cut with ⟨between, -, cut'⟩ | ⟨inside, printed, cut'⟩
    · exact behind cut'
    · cases front with
      | nil =>
        obtain ⟨rfl, rest⟩ := eq_finish first known cut
        exact ⟨[], tokens, rfl, rest⟩
      | cons c front =>
        cases inside with
        | nil =>
          rw [List.nil_append] at cut'
          exact @behind [] cut'.symm
        | cons d inside =>
          -- The tag would begin inside the token.
          obtain rfl : '<' = d := (List.cons.inj cut').1
          have free := not_mem_tail first
          rw [printed] at free
          exact absurd (List.mem_append_right front List.mem_cons_self) free

end Token

/-- The end tag of an element stands in its text only where it or an element inside ends. -/
theorem Node.eq_nil_of_endTag {before : List Token} {name : String} {content : List Node}
    {front back : List Char} (named : ∀ token ∈ before, token.Named)
    (root : (Node.element name content).Named) (foreign : .finish name ∉ before)
    (clear : .finish name ∉ tokensAll content)
    (cut : before.flatMap Token.print ++ (Node.element name content).print =
      front ++ (endTag name ++ back)) : back = [] := by
  let inner : List Token := before ++ .start name :: tokensAll content
  have tokens : before ++ (Node.element name content).tokens = inner ++ [.finish name] := by
    simp only [inner, Node.tokens, List.append_assoc, List.cons_append]
  have absent : .finish name ∉ inner := by
    simp only [inner, List.mem_append, List.mem_cons, not_or]
    exact ⟨foreign, by simp, clear⟩
  rw [← Node.print_tokens, ← List.flatMap_append] at cut
  obtain ⟨earlier, later, split, rfl⟩ := Token.exists_finish (by
    intro token inside
    rcases List.mem_append.mp inside with inside | inside
    · exact named token inside
    · exact (Node.named_tokens _).mpr root token inside) root.1 cut
  rw [tokens] at split
  rw [eq_nil_of_concat absent split, List.flatMap_nil]

end ComponentDocs.Markup
