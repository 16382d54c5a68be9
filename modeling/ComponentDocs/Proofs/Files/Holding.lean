import ComponentDocs.Files.Tree
import Mathlib.Logic.Function.Basic

/-! Trees as maps from places: what each place holds decides on all walks, and putting
something into a directory changes what one place holds. -/
namespace ComponentDocs

/-- What a place holds, without what is below it. -/
inductive Holding
  | file (content : ByteArray)
  | directory

instance : (held : Option Holding) → Decidable (held = some .directory)
  | none => isFalse nofun
  | some (.file _) => isFalse nofun
  | some .directory => isTrue rfl

namespace FileTree

def holding : FileTree → Holding
  | .file content => .file content
  | .directory _ => .directory

def holds? (tree : FileTree) (place : Place) : Option Holding := (tree.find? place).map holding

def IsBare (tree : FileTree) : Prop := ∀ name place, tree.find? (name :: place) = none

theorem isBare_file (content : ByteArray) : (FileTree.file content).IsBare := fun _ _ => rfl

theorem isBare_empty : FileTree.empty.IsBare := fun _ _ => rfl

theorem lookup_entry (first name : String) (tree : FileTree) (entries : List (String × FileTree)) :
    List.lookup name ((first, tree) :: entries) =
      if name = first then some tree else entries.lookup name := by
  by_cases same : name = first
  · rw [if_pos same, List.lookup_cons, beq_iff_eq.mpr same]
  · rw [if_neg same, List.lookup_cons, beq_eq_false_iff_ne.mpr same]

theorem lookup_setEntry (name other : String) (tree : FileTree) (entries : List (String × FileTree)) :
    (setEntry name tree entries).lookup other =
      if other = name then some tree else entries.lookup other := by
  induction entries with
  | nil => exact lookup_entry _ _ _ _
  | cons entry entries ih =>
    obtain ⟨first, old⟩ := entry
    rw [setEntry, lookup_entry]
    by_cases replaced : first = name
    · subst replaced
      rw [if_pos rfl, lookup_entry]
      by_cases same : other = first
      · rw [if_pos same, if_pos same]
      · rw [if_neg same, if_neg same, if_neg same]
    · rw [if_neg replaced, lookup_entry, ih]
      by_cases same : other = first
      · rw [if_pos same, if_neg (same ▸ replaced), if_pos same]
      · rw [if_neg same, if_neg same]

theorem find?_append (first second : Place) (tree : FileTree) :
    tree.find? (first ++ second) = (tree.find? first).bind fun inner => inner.find? second := by
  induction first generalizing tree with
  | nil => rfl
  | cons name first ih =>
    cases tree with
    | file => rfl
    | directory entries =>
      simp only [List.cons_append, find?]
      cases entries.lookup name with
      | none => rfl
      | some inner => exact ih inner

theorem holds?_directory_iff {tree : FileTree} {place : Place} :
    tree.holds? place = some .directory ↔ ∃ entries, tree.find? place = some (.directory entries) := by
  rw [holds?, Option.map_eq_some_iff]
  constructor
  · rintro ⟨_ | entries, found, kind⟩
    · cases kind
    · exact ⟨entries, found⟩
  · rintro ⟨entries, found⟩
    exact ⟨_, found, rfl⟩

theorem isSome_holds? (tree : FileTree) (place : Place) :
    (tree.holds? place).isSome = (tree.find? place).isSome := Option.isSome_map

theorem holds?_below {tree : FileTree} {place : Place} (shut : tree.holds? place ≠ some .directory)
    (name : String) (rest : Place) : tree.holds? (place ++ name :: rest) = none := by
  rw [holds?, find?_append]
  cases found : tree.find? place with
  | none => rfl
  | some inner =>
    cases inner with
    | file => rfl
    | directory entries => exact absurd (holds?_directory_iff.mpr ⟨entries, found⟩) shut

/-- Putting something into a directory, where there is no directory of that name, changes
what the place of that name holds, and nothing else. -/
theorem holds?_put {name : String} {new tree : FileTree} {place : Place} (bare : new.IsBare)
    (inside : tree.holds? place = some .directory)
    (free : tree.holds? (place ++ [name]) ≠ some .directory) :
    (put name new place tree).holds? =
      Function.update tree.holds? (place ++ [name]) (some new.holding) := by
  funext other
  rw [Function.update_apply]
  -- Along the place of the directory, together with the place that is looked at: where the two
  -- part, nothing is different.
  induction place generalizing tree other with
  | nil =>
    obtain ⟨entries, rfl⟩ : ∃ entries, tree = .directory entries := by
      simpa [find?] using holds?_directory_iff.mp inside
    cases other with
    | nil => rfl
    | cons first rest =>
      simp only [put, holds?, find?, lookup_setEntry]
      by_cases same : first = name
      · subst same
        cases rest with
        | nil => simp [find?]
        | cons second rest =>
          have below := holds?_below free second rest
          simp only [List.nil_append, List.cons_append, holds?, find?] at below
          simp [bare second rest, below]
      · simp [same]
  | cons step place ih =>
    obtain ⟨entries, rfl⟩ : ∃ entries, tree = .directory entries := by
      cases tree with
      | file => cases inside
      | directory entries => exact ⟨entries, rfl⟩
    simp only [holds?, find?, List.cons_append] at inside free
    cases found : entries.lookup step with
    | none =>
      rw [found] at inside
      cases inside
    | some inner =>
      rw [found] at inside free
      simp only [put, found]
      cases other with
      | nil => rfl
      | cons first rest =>
        simp only [holds?, find?, lookup_setEntry]
        by_cases same : first = step
        · subst same
          have below := ih inside free rest
          simp only [holds?] at below
          simp [below, found]
        · simp [same]

/-- A piece of a path that stands for a name. -/
def IsName (piece : List Char) : Prop := piece ≠ [] ∧ piece ≠ ['.'] ∧ piece ≠ ['.', '.']

section Steps

variable {tree : FileTree} {here there : Place} {piece : List Char}

theorem step_of_name (inside : tree.holds? here = some .directory) (named : IsName piece) :
    tree.step here piece =
      if nameLimit < (String.ofList piece).utf8ByteSize then .error .nameTooLong
      else if (tree.holds? (here ++ [String.ofList piece])).isSome then
        .ok (here ++ [String.ofList piece])
      else .error .notFound := by
  obtain ⟨entries, found⟩ := holds?_directory_iff.mp inside
  obtain ⟨filled, notHere, notUp⟩ := named
  rw [isSome_holds?]
  unfold step
  simp only [found]

theorem step_cases (taken : tree.step here piece = .ok there) :
    tree.holds? here = some .directory ∧
      ((piece = [] ∨ piece = ['.']) ∧ there = here ∨
        piece = ['.', '.'] ∧ there = here.dropLast ∨
        IsName piece ∧ (String.ofList piece).utf8ByteSize ≤ nameLimit ∧
          (tree.holds? there).isSome ∧ there = here ++ [String.ofList piece]) := by
  have inside : tree.holds? here = some .directory := by
    unfold step at taken
    cases found : tree.find? here with
    | none =>
      rw [found] at taken
      cases taken
    | some inner =>
      rw [found] at taken
      cases inner with
      | file => cases taken
      | directory entries => exact holds?_directory_iff.mpr ⟨entries, found⟩
  refine ⟨inside, ?_⟩
  obtain ⟨entries, found⟩ := holds?_directory_iff.mp inside
  by_cases empty : piece = []
  · subst empty
    simp only [step, found] at taken
    exact .inl ⟨.inl rfl, (Except.ok.inj taken).symm⟩
  by_cases dot : piece = ['.']
  · subst dot
    simp only [step, found] at taken
    exact .inl ⟨.inr rfl, (Except.ok.inj taken).symm⟩
  by_cases dots : piece = ['.', '.']
  · subst dots
    simp only [step, found] at taken
    exact .inr (.inl ⟨rfl, (Except.ok.inj taken).symm⟩)
  rw [step_of_name inside ⟨empty, dot, dots⟩] at taken
  split at taken
  · cases taken
  · next short =>
    split at taken
    · next present =>
      cases taken
      exact .inr (.inr ⟨⟨empty, dot, dots⟩, Nat.le_of_not_lt short, present, rfl⟩)
    · cases taken

theorem step_empty (inside : tree.holds? here = some .directory) : tree.step here [] = .ok here := by
  obtain ⟨entries, found⟩ := holds?_directory_iff.mp inside
  simp only [step, found]

theorem walk_empty (inside : tree.holds? here = some .directory) (count : Nat) :
    tree.walk (List.replicate count []) here = .ok here := by
  induction count with
  | zero => rfl
  | succ count ih =>
    rw [List.replicate_succ, walk, step_empty inside]
    exact ih

theorem new_of_step (there : (tree.holds? here).isSome) (missed : tree.step here piece = .error .notFound) :
    tree.holds? here = some .directory ∧ IsName piece ∧
      (String.ofList piece).utf8ByteSize ≤ nameLimit ∧
      tree.holds? (here ++ [String.ofList piece]) = none := by
  have inside : tree.holds? here = some .directory := by
    unfold step at missed
    rw [isSome_holds?] at there
    cases found : tree.find? here with
    | none =>
      rw [found] at there
      cases there
    | some inner =>
      rw [found] at missed
      cases inner with
      | file => cases missed
      | directory entries => exact holds?_directory_iff.mpr ⟨entries, found⟩
  obtain ⟨entries, found⟩ := holds?_directory_iff.mp inside
  have named : IsName piece := by
    refine ⟨?_, ?_, ?_⟩ <;>
    · rintro rfl
      simp only [step, found] at missed
      cases missed
  rw [step_of_name inside named] at missed
  split at missed
  · cases missed
  · next short =>
    split at missed
    · cases missed
    · next absent =>
      exact ⟨inside, named, Nat.le_of_not_lt short, Option.not_isSome_iff_eq_none.mp absent⟩

theorem walk_append (first second : List (List Char)) (here : Place) :
    tree.walk (first ++ second) here = (tree.walk first here).bind (tree.walk second) := by
  induction first generalizing here with
  | nil => rfl
  | cons piece first ih =>
    simp only [List.cons_append, walk]
    cases tree.step here piece with
    | error => rfl
    | ok there => exact ih there

theorem walk_singleton (piece : List Char) (here : Place) : tree.walk [piece] here = tree.step here piece := by
  rw [walk]
  cases tree.step here piece <;> rfl

/-- Where something is, there are directories all the way from the top. -/
theorem holds?_dropLast (there : (tree.holds? here).isSome) : (tree.holds? here.dropLast).isSome := by
  rcases List.eq_nil_or_concat here with rfl | ⟨place, name, rfl⟩
  · exact there
  · rw [List.concat_eq_append] at there ⊢
    rw [List.dropLast_concat]
    by_cases inside : tree.holds? place = some .directory
    · rw [inside]
      rfl
    · rw [holds?_below inside] at there
      cases there

theorem isSome_of_step (taken : tree.step here piece = .ok there) : (tree.holds? there).isSome := by
  obtain ⟨inside, ⟨-, rfl⟩ | ⟨-, rfl⟩ | ⟨-, -, present, -⟩⟩ := step_cases taken
  · rw [inside]
    rfl
  · exact holds?_dropLast (by rw [inside]; rfl)
  · exact present

theorem isSome_of_walk {pieces : List (List Char)} (start : (tree.holds? here).isSome)
    (walked : tree.walk pieces here = .ok there) : (tree.holds? there).isSome := by
  induction pieces generalizing here with
  | nil =>
    cases walked
    exact start
  | cons piece pieces ih =>
    rw [walk] at walked
    cases taken : tree.step here piece with
    | error error =>
      rw [taken] at walked
      cases walked
    | ok next =>
      rw [taken] at walked
      exact ih (isSome_of_step taken) walked

end Steps

/-- Directories stay directories, and nothing disappears. -/
structure Outlasts (before after : FileTree) : Prop where
  directories : ∀ place, before.holds? place = some .directory → after.holds? place = some .directory
  places : ∀ place, (before.holds? place).isSome → (after.holds? place).isSome

theorem Outlasts.of_update {before after : FileTree} {place : Place} {held : Holding}
    (free : before.holds? place ≠ some .directory)
    (changed : after.holds? = Function.update before.holds? place (some held)) :
    Outlasts before after := by
  constructor
  · intro other inside
    rw [changed, Function.update_of_ne (fun same : other = place => free (same ▸ inside)), inside]
  · intro other present
    rw [changed, Function.update_apply]
    split
    · rfl
    · exact present

namespace Outlasts

variable {before after : FileTree} (outlasts : Outlasts before after)

include outlasts

theorem step {here there : Place} {piece : List Char} (taken : before.step here piece = .ok there) :
    after.step here piece = .ok there := by
  obtain ⟨inside, staying | ⟨rfl, rfl⟩ | ⟨named, short, present, rfl⟩⟩ := step_cases taken
  · obtain ⟨entries, found⟩ := holds?_directory_iff.mp (outlasts.directories _ inside)
    obtain ⟨rfl | rfl, rfl⟩ := staying <;> simp only [FileTree.step, found]
  · obtain ⟨entries, found⟩ := holds?_directory_iff.mp (outlasts.directories _ inside)
    simp only [FileTree.step, found]
  · rw [step_of_name (outlasts.directories _ inside) named, if_neg (Nat.not_lt.mpr short),
      if_pos (outlasts.places _ present)]

theorem walk {pieces : List (List Char)} {here there : Place}
    (walked : before.walk pieces here = .ok there) : after.walk pieces here = .ok there := by
  induction pieces generalizing here with
  | nil => exact walked
  | cons piece pieces ih =>
    rw [FileTree.walk] at walked ⊢
    cases taken : before.step here piece with
    | error error =>
      rw [taken] at walked
      cases walked
    | ok next =>
      rw [taken] at walked
      rw [outlasts.step taken]
      exact ih walked

end Outlasts

end FileTree

end ComponentDocs
