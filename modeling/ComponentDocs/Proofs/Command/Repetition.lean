import ComponentDocs.Proofs.Command.Selection
import ComponentDocs.Proofs.Files.Relative

/-! Files that are selected twice. A selection has no two paths with the same parts, but parts do not
tell files apart: a `.` at the beginning and a `..` lead to one file in other parts. Nothing else
does. -/
namespace ComponentDocs.Command

section Argument

variable {workspace : Workspace} {argument : String} {path : Path}

theorem Selects.relative (selected : Selects workspace argument path)
    (plain : workspace.tree.HasPlainNames) (relative : Path.IsRelative ⟨argument⟩) : path.IsRelative := by
  rcases selected with isFile | ⟨isDirectory, named, listed, isFile⟩ | ⟨noFile, noDirectory, read, found⟩
  · exact relative
  · exact relative.join (Workspace.names_plain plain listed).head?
  · exact Workspace.matching_relative plain relative read path found

theorem Selects.straight (selected : Selects workspace argument path)
    (plain : workspace.tree.HasPlainNames) (relative : Path.IsRelative ⟨argument⟩)
    (dotless : ∀ piece ∈ Path.pieces ⟨argument⟩, piece.head? ≠ some '.') : path.IsStraight := by
  have given : Path.IsStraight ⟨argument⟩ := fun piece inside => Path.isOnward_of_head? (dotless piece inside)
  rcases selected with isFile | ⟨isDirectory, named, listed, isFile⟩ | ⟨noFile, noDirectory, read, found⟩
  · exact given
  · have inner := Workspace.names_plain plain listed
    exact given.join inner.2 inner.1.2
  · exact Workspace.matching_straight plain relative read dotless path found

end Argument

/-- Two of the paths that relative arguments select lead to one file only if one of them goes up by
`..`, or if just one of them begins with a `.`. So no file is selected twice when no piece of an
argument begins with a dot. -/
theorem repeated_only_by_dots (workspace : Workspace) (plain : workspace.tree.HasPlainNames)
    (arguments : List String) (resolve : ∀ argument ∈ arguments, Resolves workspace argument)
    (relative : ∀ argument ∈ arguments, Path.IsRelative ⟨argument⟩) :
    ∃ selection, Selection.ofArguments workspace arguments = (.ok (), selection) ∧
      (selection.files.Pairwise fun first second => ∀ place,
        workspace.place first = .ok place → workspace.place second = .ok place →
          .parent ∈ first.parts ∨ .parent ∈ second.parts ∨
            ¬ (.current ∈ first.parts ↔ .current ∈ second.parts)) ∧
      ((∀ argument ∈ arguments, ∀ piece ∈ Path.pieces ⟨argument⟩, piece.head? ≠ some '.') →
        selection.files.Pairwise fun first second => ∀ place,
          workspace.place first = .ok place → workspace.place second ≠ .ok place) := by
  obtain ⟨selection, taken, isOf⟩ := Selection.isOf_ofArguments resolve
  have relatives (path : Path) (inside : path ∈ selection.files) : path.IsRelative := by
    obtain ⟨argument, given, selected⟩ := isOf.sound path inside
    exact selected.relative plain (relative argument given)
  have apart : selection.files.Pairwise fun first second => ∀ place,
      workspace.place first = .ok place → workspace.place second = .ok place →
        .parent ∈ first.parts ∨ .parent ∈ second.parts ∨
          ¬ (.current ∈ first.parts ↔ .current ∈ second.parts) := by
    refine isOf.ordered.imp_of_mem fun {first second} inside there less place placed placed' => ?_
    by_cases up : .parent ∈ first.parts
    · exact .inl up
    by_cases up' : .parent ∈ second.parts
    · exact .inr (.inl up')
    refine .inr (.inr fun current => ?_)
    have same := Workspace.parts_of_place (relatives first inside) (relatives second there) up up' current
      placed placed'
    rw [Path.compare_eq_iff.mpr same] at less
    cases less
  refine ⟨selection, taken, apart, fun dotless => ?_⟩
  refine apart.imp_of_mem fun {first second} inside there apart place placed placed' => ?_
  have straight (path : Path) (inside : path ∈ selection.files) : path.IsStraight := by
    obtain ⟨argument, given, selected⟩ := isOf.sound path inside
    exact selected.straight plain (relative argument given) (dotless argument given)
  rcases apart place placed placed' with up | up | current
  · exact (straight first inside).no_parent (relatives first inside) up
  · exact (straight second there).no_parent (relatives second there) up
  · exact current (iff_of_false ((straight first inside).no_current (relatives first inside))
      ((straight second there).no_current (relatives second there)))

/-- The file of a working directory in three spellings, none of which goes the way of another. -/
theorem repeated_only_by_dots_thrice :
    let workspace : Workspace :=
      { tree := .directory [("a.json", .file .empty), ("d", .empty)], home := [] }
    let arguments := ["a.json", ".", "d/../a.json"]
    workspace.tree.HasPlainNames ∧ (∀ argument ∈ arguments, Resolves workspace argument) ∧
      (∀ argument ∈ arguments, Path.IsRelative ⟨argument⟩) ∧
      ∃ selection, Selection.ofArguments workspace arguments = (.ok (), selection) ∧
        selection.files = [⟨"./a.json"⟩, ⟨"a.json"⟩, ⟨"d/../a.json"⟩] ∧
        selection.files.Pairwise fun first second => ∀ place,
          workspace.place first = .ok place → workspace.place second = .ok place →
            .parent ∈ first.parts ∨ .parent ∈ second.parts ∨
              ¬ (.current ∈ first.parts ↔ .current ∈ second.parts) := by
  intro workspace arguments
  have plain : workspace.tree.HasPlainNames :=
    ⟨⟨⟨by decide, by decide, by decide⟩, by decide⟩, trivial,
      ⟨⟨by decide, by decide, by decide⟩, by decide⟩, trivial, trivial⟩
  have resolve : ∀ argument ∈ arguments, Resolves workspace argument := by
    simp only [arguments, List.forall_mem_cons]
    exact ⟨.inl (by decide), .inr (.inl (by decide)), .inl (by decide), List.forall_mem_nil _⟩
  have relative : ∀ argument ∈ arguments, Path.IsRelative ⟨argument⟩ := by
    unfold Path.IsRelative
    decide
  obtain ⟨selection, taken, apart, -⟩ := repeated_only_by_dots workspace plain arguments resolve relative
  have files : (Selection.ofArguments workspace arguments).2.files =
      [⟨"./a.json"⟩, ⟨"a.json"⟩, ⟨"d/../a.json"⟩] := by decide
  rw [taken] at files
  exact ⟨plain, resolve, relative, selection, taken, files, apart⟩

/-- A file that is given by its name and again through its directory is selected twice where the
directory is the working directory. -/
theorem home_repeats_file :
    let workspace : Workspace := { tree := .directory [("a.json", .file .empty)], home := [] }
    let arguments := [".", "a.json"]
    workspace.tree.HasPlainNames ∧
      (∀ argument ∈ arguments, Resolves workspace argument ∧ Path.IsRelative ⟨argument⟩) ∧
      ∃ selection, Selection.ofArguments workspace arguments = (.ok (), selection) ∧
        selection.files = [⟨"./a.json"⟩, ⟨"a.json"⟩] ∧
        ∀ path ∈ selection.files, workspace.place path = .ok ["a.json"] := by
  intro workspace arguments
  refine ⟨⟨⟨⟨by decide, by decide, by decide⟩, by decide⟩, trivial, trivial⟩, ?_, _, rfl, rfl, by decide⟩
  simp only [arguments, List.forall_mem_cons]
  unfold Path.IsRelative
  exact ⟨⟨.inr (.inl (by decide)), by decide⟩, ⟨.inl (by decide), by decide⟩, List.forall_mem_nil _⟩

end ComponentDocs.Command
