import ComponentDocs.Files.Pattern
import ComponentDocs.Proofs.Outcomes

/-! What patterns are read as. A level that is a name is spelled as in the text of the pattern, so
no name has a slash in it. -/
namespace ComponentDocs

theorem Text.split_cons (separator c : Char) (rest : List Char) :
    split separator (c :: rest) =
      if c = separator then [] :: split separator rest
      else (c :: (cut separator rest).1) :: (cut separator rest).2 := by
  by_cases same : c = separator <;> simp [split, cut, same]

theorem Text.not_mem_split {separator : Char} {text piece : List Char} (inside : piece ∈ split separator text) :
    separator ∉ piece := by
  induction text generalizing piece with
  | nil =>
    obtain rfl := List.mem_singleton.mp inside
    exact List.not_mem_nil
  | cons c rest ih =>
    rw [split_cons] at inside
    split at inside
    · rcases List.mem_cons.mp inside with rfl | behind
      · exact List.not_mem_nil
      · exact ih behind
    · next other =>
      rcases List.mem_cons.mp inside with rfl | behind
      · exact List.not_mem_cons_of_ne_of_not_mem (Ne.symm other) (ih List.mem_cons_self)
      · exact ih (List.mem_cons_of_mem _ behind)

theorem Text.mem_of_mem_split {separator : Char} {text piece : List Char}
    (inside : piece ∈ split separator text) {c : Char} (there : c ∈ piece) : c ∈ text := by
  induction text generalizing piece with
  | nil =>
    rw [List.mem_singleton.mp inside] at there
    exact there
  | cons letter rest ih =>
    rw [split_cons] at inside
    split at inside
    · rcases List.mem_cons.mp inside with rfl | behind
      · cases there
      · exact List.mem_cons_of_mem _ (ih behind there)
    · rcases List.mem_cons.mp inside with rfl | behind
      · rcases List.mem_cons.mp there with rfl | further
        · exact List.mem_cons_self
        · exact List.mem_cons_of_mem _ (ih List.mem_cons_self further)
      · exact List.mem_cons_of_mem _ (ih (List.mem_cons_of_mem _ behind) there)

namespace Pattern

theorem exists_exactly {glyph : Glyph} {glyphs : List Glyph} {name : List Char}
    (spelled : spelled? (glyph :: glyphs) = some name) :
    ∃ c rest, glyph = .exactly c ∧ name = c :: rest ∧ spelled? glyphs = some rest := by
  cases glyph with
  | exactly c =>
    obtain ⟨rest, known, rfl⟩ := Option.map_eq_some_iff.mp spelled
    exact ⟨c, rest, rfl, rfl, known⟩
  | any | run | oneOf | noneOf => cases spelled

theorem readClass_ne_exactly (c : Char) (text behind : List Char) :
    Glyph.readClass text ≠ some (.exactly c, behind) := by
  intro read
  unfold Glyph.readClass at read
  split at read <;> simp at read

theorem eq_of_spelled {before : Option Char} {position : Nat} {text name : List Char}
    {glyphs : List Glyph} (read : Glyph.read before position text = .ok glyphs)
    (spelled : spelled? glyphs = some name) : name = text := by
  fun_induction Glyph.read before position text generalizing glyphs name with
  | case1 =>
    cases read
    cases spelled
    rfl
  | case2 | case5 | case8 =>
    obtain ⟨glyphs, -, rfl⟩ := map_eq_ok_iff.mp read
    obtain ⟨_, _, impossible, -⟩ := exists_exactly spelled
    cases impossible
  | case3 | case6 | case7 | case9 => cases read
  | case4 =>
    cases read
    cases spelled
  | case10 position before rest glyph behind found =>
    obtain ⟨glyphs, -, rfl⟩ := map_eq_ok_iff.mp read
    obtain ⟨c, _, rfl, -⟩ := exists_exactly spelled
    exact absurd found (readClass_ne_exactly c rest behind)
  | case11 position before c rest _ _ _ _ _ ih =>
    obtain ⟨glyphs, inner, rfl⟩ := map_eq_ok_iff.mp read
    obtain ⟨c, letters, same, rfl, known⟩ := exists_exactly spelled
    cases same
    rw [ih inner known]

theorem head?_of_read {before : Option Char} {position : Nat} {text : List Char} {glyphs : List Glyph}
    (read : Glyph.read before position text = .ok glyphs) {c : Char}
    (begins : glyphs.head? = some (.exactly c)) : text.head? = some c := by
  fun_induction Glyph.read before position text generalizing glyphs with
  | case1 =>
    cases read
    cases begins
  | case2 | case5 | case8 =>
    obtain ⟨_, -, rfl⟩ := map_eq_ok_iff.mp read
    cases begins
  | case3 | case6 | case7 | case9 => cases read
  | case4 =>
    cases read
    cases begins
  | case10 position before rest glyph behind found =>
    obtain ⟨_, -, rfl⟩ := map_eq_ok_iff.mp read
    cases begins
    exact absurd found (readClass_ne_exactly c rest behind)
  | case11 =>
    obtain ⟨_, -, rfl⟩ := map_eq_ok_iff.mp read
    cases begins
    rfl

/-- What a level is read as: any depth, what its glyphs spell out, or its glyphs. -/
theorem Level.eq_of_read {text : List Char} {level : Level} (read : Level.read text = .ok level) :
    level = .anyDepth ∨ ∃ glyphs, Glyph.read none 0 text = .ok glyphs ∧
      ((∃ letters, spelled? glyphs = some letters ∧ level = .literal (String.ofList letters)) ∨
        level = .wild glyphs) := by
  obtain ⟨glyphs, known, rfl⟩ := map_eq_ok_iff.mp read
  split
  · exact .inl rfl
  · refine .inr ⟨glyphs, known, ?_⟩
    cases spelled : spelled? glyphs with
    | some letters => exact .inl ⟨letters, rfl, rfl⟩
    | none => exact .inr rfl

theorem Level.eq_of_literal {text : List Char} {name : String} (read : Level.read text = .ok (.literal name)) :
    name.toList = text := by
  obtain impossible | ⟨glyphs, known, ⟨letters, spelled, same⟩ | impossible⟩ := eq_of_read read
  · cases impossible
  · rw [Level.literal.inj same, String.toList_ofList, eq_of_spelled known spelled]
  · cases impossible

theorem Level.head?_of_wild {text : List Char} {glyphs : List Glyph}
    (read : Level.read text = .ok (.wild glyphs)) {c : Char} (begins : glyphs.head? = some (.exactly c)) :
    text.head? = some c := by
  obtain impossible | ⟨others, known, ⟨_, -, impossible⟩ | same⟩ := eq_of_read read
  · cases impossible
  · cases impossible
  · rw [Level.wild.inj same] at begins
    exact head?_of_read known begins

/-- A pattern that does not begin at the top has a level or more, each read from a piece of its
text. -/
theorem levels_of_read {text : String} {pattern : Pattern} (read : Pattern.read text = .ok pattern)
    (relative : text.toList.head? ≠ some '/') :
    pattern.fromTop = false ∧ pattern.levels ≠ [] ∧
      ∀ level ∈ pattern.levels, ∃ piece ∈ Text.split '/' text.toList, Level.read piece = .ok level := by
  rw [Pattern.read] at read
  cases examined : Glyph.read none 0 text.toList with
  | error error =>
    rw [examined] at read
    cases read
  | ok glyphs =>
    rw [examined] at read
    obtain ⟨levels, mapped, rfl⟩ := map_eq_ok_iff.mp read
    simp only [if_neg relative] at mapped
    refine ⟨decide_eq_false relative, ?_, ?_⟩
    · rintro rfl
      have nothing := List.forall₂_nil_right_iff.mp (mapM_eq_ok_iff.mp mapped)
      split at nothing
      · next several =>
        have fewer := congrArg List.length nothing
        simp only [Bool.and_eq_true, decide_eq_true_eq] at several
        rw [List.length_dropLast, List.length_nil] at fewer
        omega
      · exact List.cons_ne_nil _ _ nothing
    · intro level inside
      obtain ⟨piece, there, known⟩ := exists_of_mem_mapM mapped inside
      refine ⟨piece, ?_, known⟩
      split at there
      · exact (List.dropLast_sublist _).subset there
      · exact there

end Pattern

end ComponentDocs
