import ComponentDocs.Proofs.Files.Descent

/-! Patterns with wildcards in their last level only: the names of a directory, spelled out, and
behind them a star and an extension. -/
namespace ComponentDocs

open FileTree (Place)

namespace Glyph

/-- A character that stands for itself, wherever it is in a pattern. -/
def IsOrdinary (c : Char) : Prop := c ≠ '?' ∧ c ≠ '*' ∧ c ≠ '['

instance (c : Char) : Decidable (IsOrdinary c) := inferInstanceAs (Decidable (_ ∧ _))

theorem ordinary_of_all {text : List Char} (all : text.all fun c => IsOrdinary c) :
    ∀ c ∈ text, IsOrdinary c :=
  fun c inside => of_decide_eq_true (List.all_eq_true.mp all c inside)

theorem read_cons {c : Char} (ordinary : IsOrdinary c) (before : Option Char) (position : Nat)
    (rest : List Char) :
    read before position (c :: rest) = (read (some c) (position + 1) rest).map (.exactly c :: ·) := by
  obtain ⟨notAny, notRun, notClass⟩ := ordinary
  rw [read.eq_def]
  split <;> simp_all

theorem read_star {c : Char} (single : c ≠ '*') (before : Option Char) (position : Nat) (rest : List Char) :
    read before position ('*' :: c :: rest) =
      (read (some '*') (position + 1) (c :: rest)).map (.run :: ·) := by
  rw [read]
  · rintro _ ⟨⟩
    exact single rfl
  · rintro _ ⟨⟩
    exact single rfl

theorem read_append {text : List Char} (ordinary : ∀ c ∈ text, IsOrdinary c) (before : Option Char)
    (position : Nat) (rest : List Char) :
    ∃ before' position', read before position (text ++ rest) =
      (read before' position' rest).map (text.map .exactly ++ ·) := by
  induction text generalizing before position with
  | nil =>
    refine ⟨before, position, ?_⟩
    rw [List.nil_append]
    cases read before position rest <;> rfl
  | cons c text ih =>
    obtain ⟨first, others⟩ := List.forall_mem_cons.mp ordinary
    obtain ⟨before', position', followed⟩ := ih others (some c) (position + 1)
    refine ⟨before', position', ?_⟩
    rw [List.cons_append, read_cons first, followed]
    cases read before' position' rest <;> rfl

theorem read_ordinary {text : List Char} (ordinary : ∀ c ∈ text, IsOrdinary c) (before : Option Char)
    (position : Nat) : read before position text = .ok (text.map .exactly) := by
  obtain ⟨before', position', followed⟩ := read_append ordinary before position []
  rw [List.append_nil] at followed
  rw [followed, read]
  simp [Except.map]

theorem stand_exactly {text name : List Char} : stand (text.map .exactly) name ↔ name = text := by
  induction text generalizing name with
  | nil => exact List.isEmpty_iff
  | cons c text ih =>
    cases name with
    | nil => simp [stand]
    | cons letter name =>
      simp only [List.map_cons, stand, admits, Bool.and_eq_true, decide_eq_true_eq, ih, List.cons.injEq,
        @eq_comm _ c letter]

theorem stand_run {glyphs : List Glyph} {name : List Char} :
    stand (.run :: glyphs) name ↔ ∃ suffix, suffix <:+ name ∧ stand glyphs suffix := by
  simp [stand, mem_suffixes]

/-- A star and an extension stand for the names that end in it. -/
theorem stand_extension {extension name : List Char} :
    stand (.run :: extension.map .exactly) name ↔ extension <:+ name := by
  rw [stand_run]
  constructor
  · rintro ⟨suffix, ends, stands⟩
    rwa [stand_exactly.mp stands] at ends
  · exact fun ends => ⟨extension, ends, stand_exactly.mpr rfl⟩

end Glyph

namespace Pattern

theorem spelled?_exactly (text : List Char) : spelled? (text.map .exactly) = some text := by
  induction text with
  | nil => rfl
  | cons c text ih => rw [List.map_cons, spelled?, ih, Option.map_some]

theorem Level.read_ordinary {text : List Char} (ordinary : ∀ c ∈ text, Glyph.IsOrdinary c) :
    Level.read text = .ok (.literal (String.ofList text)) := by
  have single : text ≠ ['*', '*'] := by
    rintro rfl
    exact (ordinary '*' List.mem_cons_self).2.1 rfl
  rw [Level.read, Glyph.read_ordinary ordinary, Except.map, if_neg single, spelled?_exactly]

def extended (extension : List Char) : Level := .wild (.run :: extension.map .exactly)

theorem read_star_extension {c : Char} {extension : List Char}
    (ordinary : ∀ letter ∈ c :: extension, Glyph.IsOrdinary letter) (before : Option Char) (position : Nat) :
    Glyph.read before position ('*' :: c :: extension) = .ok (.run :: (c :: extension).map .exactly) := by
  rw [Glyph.read_star (ordinary c List.mem_cons_self).2.1, Glyph.read_ordinary ordinary]
  rfl

theorem Level.read_extended {c : Char} {extension : List Char}
    (ordinary : ∀ letter ∈ c :: extension, Glyph.IsOrdinary letter) :
    Level.read ('*' :: c :: extension) = .ok (extended (c :: extension)) := by
  have single : '*' :: c :: extension ≠ ['*', '*'] := by
    rintro ⟨⟩
    exact (ordinary '*' List.mem_cons_self).2.1 rfl
  rw [Level.read, read_star_extension ordinary, Except.map, if_neg single]
  rfl

/-- A directory that is spelled with ordinary characters, and behind it a star and an extension, are
read as the names that lead to the directory, and a level for what is in it. -/
theorem read_entries {directory text : String} {c : Char} {extension : List Char} (spelled : directory ≠ "")
    (ordinary : ∀ letter ∈ directory.toList, Glyph.IsOrdinary letter)
    (ordinary' : ∀ letter ∈ c :: extension, Glyph.IsOrdinary letter) (inner : '/' ∉ c :: extension)
    (letters : text.toList = directory.toList ++ '/' :: '*' :: c :: extension) :
    Pattern.read text =
      .ok {
        fromTop := directory.toList.head? = some '/'
        levels := (Path.steps ⟨directory⟩).map (fun piece => .literal (String.ofList piece)) ++
          [extended (c :: extension)]
        directoriesOnly := false } := by
  have filled : directory.toList ≠ [] := mt String.toList_eq_nil_iff.mp spelled
  have begins : text.toList.head? = directory.toList.head? := by
    rw [letters, List.head?_append_of_ne_nil _ filled]
  have ends : text.toList.getLast? ≠ some '/' := by
    rw [letters, List.getLast?_append_of_ne_nil _ (List.cons_ne_nil _ _), List.getLast?_cons_cons,
      List.getLast?_cons_cons]
    exact fun slash => inner (List.mem_of_getLast? slash)
  have pieces : Text.split '/' (if directory.toList.head? = some '/' then text.toList.drop 1 else text.toList) =
      Path.steps ⟨directory⟩ ++ ['*' :: c :: extension] := by
    have last : Text.split '/' ('*' :: c :: extension) = ['*' :: c :: extension] :=
      Text.split_of_not_mem (List.not_mem_cons_of_ne_of_not_mem (by decide) inner)
    rw [Path.steps, letters, ← last]
    split
    · rw [List.drop_append_of_le_length (List.length_pos_iff.mpr filled), Text.split_append]
    · rw [Text.split_append]
  obtain ⟨glyphs, examined⟩ : ∃ glyphs, Glyph.read none 0 text.toList = .ok glyphs := by
    obtain ⟨before, position, followed⟩ :=
      Glyph.read_append ordinary none 0 ('/' :: '*' :: c :: extension)
    have slash : Glyph.IsOrdinary '/' := by decide
    rw [letters, followed, Glyph.read_cons slash, read_star_extension ordinary']
    exact ⟨_, rfl⟩
  have levels : (Path.steps ⟨directory⟩ ++ ['*' :: c :: extension]).mapM Level.read =
      .ok ((Path.steps ⟨directory⟩).map (fun piece => .literal (String.ofList piece)) ++
        [extended (c :: extension)]) := by
    refine mapM_eq_ok_iff.mpr (List.rel_append ?_ ?_)
    · refine List.forall₂_map_right_iff.mpr (List.forall₂_same.mpr fun piece inside => ?_)
      exact Level.read_ordinary fun c there => ordinary c (Path.mem_of_mem_steps inside there)
    · exact .cons (Level.read_extended ordinary') .nil
  rw [Pattern.read, examined, begins]
  simp only [pieces, decide_eq_false ends, Bool.false_and, Bool.false_eq_true, if_false, levels]
  rfl

end Pattern

namespace Workspace

variable {workspace : Workspace} {path : Path} {root : Place}

theorem mem_search_extended {here : Path} {extension : List Char} (leads : workspace.Leads here root) :
    path ∈ workspace.search [Pattern.extended extension] here ↔
      ∃ name ∈ workspace.names here, extension <:+ name.toList ∧ path = here.child name := by
  rw [Pattern.extended, search, if_pos (isDirectory_iff.mpr ⟨root, leads⟩)]
  simp [Glyph.stand_extension, search, and_assoc]

theorem names_of_place {other : Path} (same : workspace.place path = workspace.place other) :
    workspace.names path = workspace.names other := by
  rw [names, names, at?, at?, same]

/-- What a directory with a star and an extension behind it stands for: the files in it whose names
end in the extension. -/
theorem matching_entries {directory text : String} {c : Char} {extension : List Char}
    (leads : workspace.Leads ⟨directory⟩ root)
    (ordinary : ∀ letter ∈ directory.toList, Glyph.IsOrdinary letter)
    (flowing : Path.IsRelative ⟨directory⟩ → ¬ Path.Stalls (Path.pieces ⟨directory⟩))
    (ordinary' : ∀ letter ∈ c :: extension, Glyph.IsOrdinary letter) (inner : '/' ∉ c :: extension)
    (letters : text.toList = directory.toList ++ '/' :: '*' :: c :: extension) :
    ∃ pattern, Pattern.read text = .ok pattern ∧
      ∀ path, path ∈ workspace.matching pattern ↔ workspace.isFile path ∧
        ∃ name ∈ workspace.names ⟨directory⟩, (c :: extension) <:+ name.toList ∧
          path = (Path.respelled ⟨directory⟩).child name := by
  obtain ⟨found, there, -⟩ := search_steps leads flowing [Pattern.extended (c :: extension)]
  refine ⟨_, Pattern.read_entries leads.spelled ordinary ordinary' inner letters, fun path => ?_⟩
  simp only [matching, Bool.false_eq_true, if_false, decide_eq_true_eq, List.mem_filter, found]
  rw [mem_search_extended there, names_of_place (there.1.trans leads.1.symm), and_comm]

end Workspace

end ComponentDocs
