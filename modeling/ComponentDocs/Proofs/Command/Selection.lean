import ComponentDocs.Command.Selection
import ComponentDocs.Proofs.Files.Order
import ComponentDocs.Proofs.Files.Reordering
import ComponentDocs.Proofs.Steps

/-! The files that arguments stand for. They are selected once each and in the order of paths, and
neither the order of the arguments, nor how often one is given, nor the order in which directories
list their entries makes a difference. -/
namespace ComponentDocs

theorem Text.suffix_iff {name extension : String} :
    extension.toList <:+ name.toList ↔ ∃ stem, name = stem ++ extension := by
  constructor
  · rintro ⟨stem, ends⟩
    exact ⟨String.ofList stem, by rw [← String.toList_inj, String.toList_append, String.toList_ofList, ends]⟩
  · rintro ⟨stem, rfl⟩
    exact ⟨stem.toList, String.toList_append.symm⟩

namespace Command

theorem isSnapshotName_iff {name : String} :
    isSnapshotName name ↔ ∃ stem, stem ≠ "" ∧ name = stem ++ ".json" := by
  rw [isSnapshotName, Bool.and_eq_true, List.isSuffixOf_iff_suffix, decide_eq_true_eq, Text.suffix_iff]
  constructor
  · rintro ⟨⟨stem, rfl⟩, longer⟩
    refine ⟨stem, ?_, rfl⟩
    rintro rfl
    exact absurd longer (by decide)
  · rintro ⟨stem, named, rfl⟩
    have filled : 0 < stem.length := Nat.pos_of_ne_zero (mt String.length_eq_zero_iff.mp named)
    refine ⟨⟨stem, rfl⟩, ?_⟩
    rw [String.length_append]
    omega

/-- What an argument stands for: a file stands for itself, whatever characters it is spelled
with, a directory for the files in it that are named as snapshots, and anything else for the
files of a pattern. -/
inductive Selects (workspace : Workspace) (argument : String) : Path → Prop
  | file (isFile : workspace.isFile ⟨argument⟩) : Selects workspace argument ⟨argument⟩
  | inside {stem : String} (isDirectory : workspace.isDirectory ⟨argument⟩) (named : stem ≠ "")
      (listed : stem ++ ".json" ∈ workspace.names ⟨argument⟩)
      (isFile : workspace.isFile (Path.join ⟨argument⟩ (stem ++ ".json"))) :
      Selects workspace argument (Path.join ⟨argument⟩ (stem ++ ".json"))
  | matched {pattern : Pattern} {path : Path} (noFile : ¬ workspace.isFile ⟨argument⟩)
      (noDirectory : ¬ workspace.isDirectory ⟨argument⟩) (read : Pattern.read argument = .ok pattern)
      (found : path ∈ workspace.matching pattern) : Selects workspace argument path

/-- An argument that is there or is a pattern. -/
def Resolves (workspace : Workspace) (argument : String) : Prop :=
  workspace.isFile ⟨argument⟩ ∨ workspace.isDirectory ⟨argument⟩ ∨
    ∃ pattern, Pattern.read argument = .ok pattern

/-- An argument that is not there and stands for no file. -/
def IsUnmatched (workspace : Workspace) (argument : String) : Prop :=
  ¬ workspace.isFile ⟨argument⟩ ∧ ¬ workspace.isDirectory ⟨argument⟩ ∧
    ∀ path, ¬ Selects workspace argument path

section Argument

variable {workspace : Workspace} {argument : String} {path : Path}

theorem not_isDirectory_of_isFile (isFile : workspace.isFile path) : ¬ workspace.isDirectory path := by
  rw [Workspace.isFile] at isFile
  rw [Workspace.isDirectory]
  cases found : workspace.at? path with
  | none => exact Bool.false_ne_true
  | some inner =>
    rw [found] at isFile
    cases inner with
    | file => exact Bool.false_ne_true
    | directory => exact absurd isFile Bool.false_ne_true

theorem selects_of_isFile (isFile : workspace.isFile ⟨argument⟩) :
    Selects workspace argument path ↔ path = ⟨argument⟩ := by
  constructor
  · rintro (_ | ⟨isDirectory, -, -, -⟩ | ⟨noFile, -, -, -⟩)
    · rfl
    · exact absurd isDirectory (not_isDirectory_of_isFile isFile)
    · exact absurd isFile noFile
  · rintro rfl
    exact .file isFile

theorem selects_of_isDirectory (isDirectory : workspace.isDirectory ⟨argument⟩) :
    Selects workspace argument path ↔ path ∈ snapshotsIn workspace ⟨argument⟩ := by
  rw [snapshotsIn, List.mem_filter, List.mem_map]
  constructor
  · rintro (isFile | ⟨-, named, listed, isFile⟩ | ⟨-, noDirectory, -, -⟩)
    · exact absurd isDirectory (not_isDirectory_of_isFile isFile)
    · exact ⟨⟨_, List.mem_filter.mpr ⟨listed, isSnapshotName_iff.mpr ⟨_, named, rfl⟩⟩, rfl⟩, isFile⟩
    · exact absurd isDirectory noDirectory
  · rintro ⟨⟨name, listed, rfl⟩, isFile⟩
    obtain ⟨listed, snapshot⟩ := List.mem_filter.mp listed
    obtain ⟨stem, named, rfl⟩ := isSnapshotName_iff.mp snapshot
    exact .inside isDirectory named listed isFile

theorem selects_of_read {pattern : Pattern} (noFile : ¬ workspace.isFile ⟨argument⟩)
    (noDirectory : ¬ workspace.isDirectory ⟨argument⟩) (read : Pattern.read argument = .ok pattern) :
    Selects workspace argument path ↔ path ∈ workspace.matching pattern := by
  constructor
  · rintro (isFile | ⟨isDirectory, -, -, -⟩ | ⟨-, -, again, found⟩)
    · exact absurd isFile noFile
    · exact absurd isDirectory noDirectory
    · cases read.symm.trans again
      exact found
  · exact .matched noFile noDirectory read

theorem isUnmatched_iff : IsUnmatched workspace argument ↔
    ¬ workspace.isFile ⟨argument⟩ ∧ ¬ workspace.isDirectory ⟨argument⟩ ∧
      ∀ pattern ∈ (Pattern.read argument).toOption, workspace.matching pattern = [] := by
  refine and_congr_right fun noFile => and_congr_right fun noDirectory => ?_
  cases read : Pattern.read argument with
  | error error =>
    refine iff_of_true (fun path => ?_) nofun
    rintro (isFile | ⟨isDirectory, -, -, -⟩ | ⟨-, -, again, -⟩)
    · exact noFile isFile
    · exact noDirectory isDirectory
    · cases read.symm.trans again
  | ok pattern =>
    simp only [selects_of_read noFile noDirectory read, Except.toOption, Option.mem_some_iff, forall_eq',
      List.eq_nil_iff_forall_not_mem]

instance : Decidable (IsUnmatched workspace argument) := decidable_of_iff _ isUnmatched_iff.symm

/-- An argument adds the files that it stands for, and a warning if there are none because it is
not there. -/
theorem add_spec (resolves : Resolves workspace argument) (selection : Selection) :
    ∃ paths, (∀ path, path ∈ paths ↔ Selects workspace argument path) ∧
      Selection.add workspace argument selection =
        (.ok (), {
          files := Path.insertAll paths selection.files
          log := selection.log ++
            if IsUnmatched workspace argument then [noMatchEvent argument] else [] }) := by
  by_cases isFile : workspace.isFile ⟨argument⟩
  · have matched : ¬ IsUnmatched workspace argument := fun unmatched => unmatched.1 isFile
    refine ⟨[⟨argument⟩], fun path => ?_, ?_⟩
    · rw [selects_of_isFile isFile, List.mem_singleton]
    · simp only [Selection.add, if_pos isFile, if_neg matched, List.append_nil]
      rfl
  by_cases isDirectory : workspace.isDirectory ⟨argument⟩
  · have matched : ¬ IsUnmatched workspace argument := fun unmatched => unmatched.2.1 isDirectory
    refine ⟨_, fun path => (selects_of_isDirectory isDirectory).symm, ?_⟩
    simp only [Selection.add, if_neg isFile, if_pos isDirectory, if_neg matched, List.append_nil]
    rfl
  obtain ⟨pattern, read⟩ : ∃ pattern, Pattern.read argument = .ok pattern :=
    (resolves.resolve_left isFile).resolve_left isDirectory
  refine ⟨_, fun path => (selects_of_read isFile isDirectory read).symm, ?_⟩
  simp only [Selection.add, if_neg isFile, if_neg isDirectory, read]
  have unmatched : IsUnmatched workspace argument ↔ workspace.matching pattern = [] := by
    rw [isUnmatched_iff, read]
    exact ⟨fun unmatched => unmatched.2.2 pattern rfl,
      fun nothing => ⟨isFile, isDirectory, fun _ same => Option.some.inj same ▸ nothing⟩⟩
  cases found : workspace.matching pattern with
  | nil => rw [if_pos (unmatched.mpr found)]; rfl
  | cons path paths =>
    rw [if_neg (fun none => by rw [unmatched.mp none] at found; cases found), List.append_nil]
    rfl

end Argument

/-- A selection of just the files that arguments stand for, in order, with one warning for each
time that an argument stands for none. -/
structure Selection.IsOf (workspace : Workspace) (arguments : List String) (selection : Selection) :
    Prop where
  ordered : Path.Ordered selection.files
  sound : ∀ path ∈ selection.files, ∃ argument ∈ arguments, Selects workspace argument path
  complete : ∀ argument ∈ arguments, ∀ path, Selects workspace argument path →
    ∃ file ∈ selection.files, file.parts = path.parts
  log : selection.log =
    (arguments.filter fun argument => IsUnmatched workspace argument).map noMatchEvent

namespace Selection.IsOf

variable {workspace : Workspace} {arguments : List String} {selection : Selection}

theorem nil (workspace : Workspace) : IsOf workspace [] {} where
  ordered := List.Pairwise.nil
  sound := nofun
  complete := nofun
  log := rfl

theorem add (isOf : IsOf workspace arguments selection) {argument : String}
    (resolves : Resolves workspace argument) :
    ∃ next, Selection.add workspace argument selection = (.ok (), next) ∧
      IsOf workspace (arguments ++ [argument]) next := by
  obtain ⟨paths, selects, added⟩ := add_spec resolves selection
  refine ⟨_, added, isOf.ordered.insertAll, fun path inside => ?_, fun other given path selected => ?_, ?_⟩
  · rcases Path.mem_of_mem_insertAll inside with new | old
    · exact ⟨argument, List.mem_concat_self, (selects path).mp new⟩
    · obtain ⟨other, given, selected⟩ := isOf.sound path old
      exact ⟨other, List.mem_append_left _ given, selected⟩
  · have known : path.parts ∈ paths.map Path.parts ∨ path.parts ∈ selection.files.map Path.parts := by
      rcases List.mem_append.mp given with earlier | last
      · obtain ⟨file, old, same⟩ := isOf.complete other earlier path selected
        exact .inr (same ▸ List.mem_map_of_mem old)
      · rw [List.mem_singleton.mp last] at selected
        exact .inl (List.mem_map_of_mem ((selects path).mpr selected))
    exact List.mem_map.mp (Path.parts_insertAll.mpr known)
  · rw [isOf.log, List.filter_append, List.map_append]
    by_cases unmatched : IsUnmatched workspace argument <;> simp [unmatched]

theorem parts_eq (isOf : IsOf workspace arguments selection) {others : List String} {second : Selection}
    (isOther : IsOf workspace others second) (same : ∀ argument, argument ∈ arguments ↔ argument ∈ others) :
    selection.files.map Path.parts = second.files.map Path.parts := by
  have within {arguments others : List String} {first second : Selection}
      (isOf : IsOf workspace arguments first) (isOther : IsOf workspace others second)
      (given : ∀ argument, argument ∈ arguments → argument ∈ others) {parts : List Path.Part}
      (inside : parts ∈ first.files.map Path.parts) : parts ∈ second.files.map Path.parts := by
    obtain ⟨path, selected, rfl⟩ := List.mem_map.mp inside
    obtain ⟨argument, known, selected⟩ := isOf.sound path selected
    exact List.mem_map.mpr (isOther.complete argument (given argument known) path selected)
  exact isOf.ordered.parts_eq isOther.ordered fun parts =>
    ⟨within isOf isOther fun argument => (same argument).mp,
      within isOther isOf fun argument => (same argument).mpr⟩

end Selection.IsOf

theorem Selection.isOf_ofArguments {workspace : Workspace} {arguments : List String}
    (resolve : ∀ argument ∈ arguments, Resolves workspace argument) :
    ∃ selection, ofArguments workspace arguments = (.ok (), selection) ∧
      IsOf workspace arguments selection := by
  suffices run : ∀ (earlier : List String) (before : Selection), IsOf workspace earlier before →
      ∃ selection, eachStep (Selection.add workspace) arguments before = (.ok (), selection) ∧
        IsOf workspace (earlier ++ arguments) selection from run [] {} (.nil workspace)
  induction arguments with
  | nil =>
    intro earlier before isOf
    exact ⟨before, rfl, by rwa [List.append_nil]⟩
  | cons argument arguments ih =>
    intro earlier before isOf
    obtain ⟨next, added, isOf⟩ := isOf.add (resolve argument List.mem_cons_self)
    obtain ⟨selection, run, isOf⟩ :=
      ih (fun other given => resolve other (List.mem_cons_of_mem _ given)) _ next isOf
    refine ⟨selection, ?_, by rwa [List.append_assoc] at isOf⟩
    simp only [eachStep, added]
    exact run

section Reordering

variable {before after : Workspace} {argument : String}

theorem Selects.reordered {path : Path} (selected : Selects before argument path)
    (reordered : before.Reordered after) : Selects after argument path := by
  rcases selected with isFile | ⟨isDirectory, named, listed, isFile⟩ | ⟨noFile, noDirectory, read, found⟩
  · exact .file ((reordered.isFile _).symm.trans isFile)
  · exact .inside ((reordered.isDirectory _).symm.trans isDirectory) named
      ((reordered.mem_names _ _).mp listed) ((reordered.isFile _).symm.trans isFile)
  · exact .matched (reordered.isFile _ ▸ noFile) (reordered.isDirectory _ ▸ noDirectory) read
      ((reordered.mem_matching _ _).mp found)

theorem selects_reordered (reordered : before.Reordered after) (path : Path) :
    Selects after argument path ↔ Selects before argument path :=
  ⟨fun selected => selected.reordered reordered.symm, fun selected => selected.reordered reordered⟩

theorem isUnmatched_reordered (reordered : before.Reordered after) :
    IsUnmatched after argument ↔ IsUnmatched before argument := by
  simp only [IsUnmatched, reordered.isFile, reordered.isDirectory, selects_reordered reordered]

theorem Resolves.reordered (resolves : Resolves before argument) (reordered : before.Reordered after) :
    Resolves after argument := by
  rwa [Resolves, ← reordered.isFile, ← reordered.isDirectory]

theorem Selection.IsOf.of_reordered (reordered : before.Reordered after) {arguments : List String}
    {selection : Selection} (isOf : IsOf after arguments selection) :
    IsOf before arguments selection where
  ordered := isOf.ordered
  sound path inside := by
    simpa only [selects_reordered reordered] using isOf.sound path inside
  complete argument given path selected := isOf.complete argument given path (selected.reordered reordered)
  log := by simpa only [isUnmatched_reordered reordered] using isOf.log

end Reordering

/-- The files of arguments that are there, or are patterns, are selected in order and once each, and
there is one warning for each time that an argument is not there and stands for no file. The same
arguments in any order and number, in a workspace whose directories list their entries in any
order, select the same files: paths with the same parts, which are the same letter for letter
where no two of the paths that the arguments stand for have the same parts in two spellings. -/
theorem arguments_select (workspace : Workspace) (arguments : List String)
    (resolve : ∀ argument ∈ arguments, Resolves workspace argument) :
    ∃ selection, Selection.ofArguments workspace arguments = (.ok (), selection) ∧
      selection.IsOf workspace arguments ∧
      ∀ (after : Workspace) (others : List String), workspace.Reordered after →
        (∀ argument, argument ∈ others ↔ argument ∈ arguments) →
        ∃ second, Selection.ofArguments after others = (.ok (), second) ∧
          second.IsOf workspace others ∧
          second.files.map Path.parts = selection.files.map Path.parts ∧
          ((∀ first ∈ arguments, ∀ other ∈ arguments, ∀ path spelling, Selects workspace first path →
            Selects workspace other spelling → path.parts = spelling.parts → path = spelling) →
              second.files = selection.files) := by
  obtain ⟨selection, taken, isOf⟩ := Selection.isOf_ofArguments resolve
  refine ⟨selection, taken, isOf, fun after others reordered same => ?_⟩
  have resolveToo (argument : String) (given : argument ∈ others) : Resolves after argument :=
    (resolve argument ((same argument).mp given)).reordered reordered
  obtain ⟨second, takenToo, isOther⟩ := Selection.isOf_ofArguments resolveToo
  have isOther := isOther.of_reordered reordered
  have parts := isOther.parts_eq isOf same
  refine ⟨second, takenToo, isOther, parts, fun spelled => Path.eq_of_map_parts parts ?_⟩
  intro path inside spelling there
  obtain ⟨first, given, selected⟩ := isOther.sound path inside
  obtain ⟨other, known, selects⟩ := isOf.sound spelling there
  exact spelled first ((same first).mp given) other known path spelling selected selects

/-- A directory that is given twice, a file whose name would come first among the letters of its
path, and a pattern of nothing. -/
theorem arguments_select_overlapping :
    let workspace : Workspace :=
      { tree := .directory [("a-b.json", .file .empty),
          ("a", .directory [(".json", .file .empty), ("c.json", .empty), ("b.json", .file .empty)])]
        home := [] }
    let arguments := ["a-b.json", "a", "z*", "a"]
    (∀ argument ∈ arguments, Resolves workspace argument) ∧
      ∃ selection, Selection.ofArguments workspace arguments = (.ok (), selection) ∧
        selection.IsOf workspace arguments ∧ selection.files = [⟨"a/b.json"⟩, ⟨"a-b.json"⟩] ∧
        selection.log = [noMatchEvent "z*"] := by
  intro workspace arguments
  have read : Pattern.read "z*" = .ok ⟨false, [.wild [.exactly 'z', .run]], false⟩ := by decide +kernel
  have resolve : ∀ argument ∈ arguments, Resolves workspace argument := by
    simp only [arguments, List.forall_mem_cons]
    exact ⟨.inl (by decide), .inr (.inl (by decide)), .inr (.inr ⟨_, read⟩), .inr (.inl (by decide)), List.forall_mem_nil _⟩
  obtain ⟨selection, taken, isOf, -⟩ := arguments_select workspace arguments resolve
  have files : (Selection.ofArguments workspace arguments).2.files = [⟨"a/b.json"⟩, ⟨"a-b.json"⟩] := by
    decide +kernel
  have log : (Selection.ofArguments workspace arguments).2.log = [noMatchEvent "z*"] := by
    decide +kernel
  rw [taken] at files log
  exact ⟨resolve, selection, taken, isOf, files, log⟩

end Command

end ComponentDocs
