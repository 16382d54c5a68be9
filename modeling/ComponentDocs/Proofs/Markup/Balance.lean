import ComponentDocs.Proofs.Markup.Pen

/-! Balanced rows of events, which finish just the elements that they start. Such a row leaves
the pen at the margin and with the open elements at which it found it, and elements that were
open before do not show in what it offers. -/
namespace ComponentDocs.Markup

inductive Balanced : List Event → Prop
  | nil : Balanced []
  | declaration {rest : List Event} (others : Balanced rest) : Balanced (.declaration :: rest)
  | text (value : String) {rest : List Event} (others : Balanced rest) :
      Balanced (.text value :: rest)
  | element (name : String) {held rest : List Event} (inside : Balanced held)
      (others : Balanced rest) : Balanced (.start name :: (held ++ .finish :: rest))

theorem Balanced.append {first second : List Event} (before : Balanced first)
    (behind : Balanced second) : Balanced (first ++ second) := by
  induction before with
  | nil => exact behind
  | declaration _ ih => exact .declaration ih
  | text value _ ih => exact .text value ih
  | element name inside _ _ ih =>
    rw [List.cons_append, List.append_assoc]
    exact .element name inside ih

theorem balanced_leaf (name value : String) : Balanced (leaf name value) :=
  .element name (.text value .nil) .nil

namespace Pen

theorem offersAll_append (first second : List Event) (pen : Pen) :
    pen.offersAll (first ++ second) = pen.offersAll first ++ (pen.afterAll first).offersAll second := by
  induction first generalizing pen with
  | nil => rfl
  | cons event events ih => simp only [List.cons_append, offersAll, afterAll, ih, List.append_assoc]

theorem afterAll_append (first second : List Event) (pen : Pen) :
    pen.afterAll (first ++ second) = (pen.afterAll first).afterAll second := by
  induction first generalizing pen with
  | nil => rfl
  | cons event events ih => simp only [List.cons_append, afterAll, ih]

/-- How far in a pen is: its margin, line break or not, and the open elements. -/
def level (pen : Pen) : Option (Nat × Nat) × List String :=
  (pen.margin.map fun margin => (margin.width, margin.blanks), pen.unclosed)

theorem level_move_afterTag (pen : Pen) : (pen.move .afterTag).level = pen.level := by
  obtain ⟨margin, unclosed⟩ := pen
  cases margin <;> rfl

theorem level_move_afterText (pen : Pen) : (pen.move .afterText).level = pen.level := by
  obtain ⟨margin, unclosed⟩ := pen
  cases margin <;> rfl

/-- An end tag on the level of the start tag takes the pen back to where that was. -/
theorem after_finish {inner pen : Pen} {name : String}
    (same : inner.level = (pen.after (.start name)).level) :
    inner.unclosed = name :: pen.unclosed ∧ inner.after .finish = pen.move .afterTag := by
  obtain ⟨margin, unclosed⟩ := inner
  obtain ⟨outerMargin, outer⟩ := pen
  simp only [level, after, move, Prod.mk.injEq] at same
  obtain ⟨margins, rfl⟩ := same
  refine ⟨rfl, ?_⟩
  cases outerMargin with
  | none =>
    obtain rfl : margin = none := by simpa using margins
    rfl
  | some outerMargin =>
    cases margin with
    | none => simp at margins
    | some margin =>
      obtain ⟨width, blanks, breakLine⟩ := margin
      obtain ⟨width', blanks', breakLine'⟩ := outerMargin
      simp only [Option.map_some, Margin.deeper, Margin.afterTag, Option.some.injEq,
        Prod.mk.injEq] at margins
      obtain ⟨rfl, rfl⟩ := margins
      simp only [after, move, Option.map_some, Margin.shallower, Margin.afterTag,
        Nat.add_sub_cancel]

theorem level_afterAll {events : List Event} (balanced : Balanced events) (pen : Pen) :
    (pen.afterAll events).level = pen.level := by
  induction balanced generalizing pen with
  | nil => rfl
  | declaration _ ih => exact (ih _).trans pen.level_move_afterTag
  | text value _ ih => exact (ih _).trans pen.level_move_afterText
  | element name _ _ ihInside ihOthers =>
    rw [afterAll, afterAll_append, afterAll, (after_finish (ihInside _)).2, ihOthers,
      level_move_afterTag]

theorem afterAll_element {held : List Event} (inside : Balanced held) (name : String) (pen : Pen) :
    pen.afterAll (.start name :: (held ++ [.finish])) = pen.move .afterTag := by
  rw [afterAll, afterAll_append]
  exact (after_finish (level_afterAll inside _)).2

/-- The pen with further open elements around those that it knows. -/
def below (outer : List String) (pen : Pen) : Pen := { pen with unclosed := pen.unclosed ++ outer }

/-- A balanced row does not touch the elements around those that it finds open. -/
theorem run_below {events : List Event} (balanced : Balanced events) (outer : List String)
    (pen : Pen) :
    (pen.below outer).offersAll events = pen.offersAll events ∧
      (pen.below outer).afterAll events = (pen.afterAll events).below outer := by
  induction balanced generalizing pen with
  | nil => exact ⟨rfl, rfl⟩
  | declaration _ ih =>
    obtain ⟨offers, after⟩ := ih (pen.after .declaration)
    exact ⟨congrArg (pen.offers .declaration ++ ·) offers, after⟩
  | text value _ ih =>
    obtain ⟨offers, after⟩ := ih (pen.after (.text value))
    exact ⟨congrArg (pen.offers (.text value) ++ ·) offers, after⟩
  | @element name held rest inside _ ihInside ihOthers =>
    obtain ⟨offers, after⟩ := ihInside (pen.after (.start name))
    have start : (pen.below outer).after (.start name) = (pen.after (.start name)).below outer := rfl
    generalize reached : (pen.after (.start name)).afterAll held = inner at offers after
    obtain ⟨unclosed, finished⟩ := after_finish (reached ▸ level_afterAll inside _)
    -- The innermost open element is the one started here, so what lies around does not show.
    have finish : (inner.below outer).offers .finish = inner.offers .finish ∧
        (inner.below outer).after .finish = (inner.after .finish).below outer := by
      obtain ⟨margin, names⟩ := inner
      obtain rfl : names = name :: pen.unclosed := unclosed
      exact ⟨rfl, rfl⟩
    obtain ⟨others, last⟩ := ihOthers (inner.after .finish)
    constructor
    · simp only [offersAll, offersAll_append, start, offers, after, reached, finish, others]
      rfl
    · simp only [afterAll, afterAll_append, start, after, reached, finish, last]

end Pen

end ComponentDocs.Markup
