import ComponentDocs.Proofs.Command.Publication
import ComponentDocs.Proofs.Document.NoSnapshot

/-! What the documents of a run are made of. A document is no snapshot, so a run that ends well
has read no file that it had written before: every input is what it was when the run began. -/
namespace ComponentDocs

open FileTree (IsName Place)

theorem FileTree.walk_before {before after : FileTree}
    (old : ∀ place, after.holds? place = some .directory → before.holds? place = some .directory)
    {pieces : List (List Char)} {here there : Place} (walked : after.walk pieces here = .ok there)
    (present : (before.holds? there).isSome) : before.walk pieces here = .ok there := by
  induction pieces generalizing here with
  | nil => exact walked
  | cons piece pieces ih =>
    rw [walk] at walked ⊢
    cases taken : after.step here piece with
    | error error =>
      rw [taken] at walked
      cases walked
    | ok next =>
      rw [taken] at walked
      have known : (before.holds? next).isSome := by
        cases pieces with
        | nil =>
          cases walked
          exact present
        | cons second pieces =>
          -- Another step is taken from here, so this is a directory.
          have walked : after.walk (second :: pieces) next = .ok there := walked
          rw [walk] at walked
          cases later : after.step next second with
          | error error =>
            rw [later] at walked
            cases walked
          | ok _ =>
            rw [old next (step_cases later).1]
            rfl
      have stepped : before.step here piece = .ok next := by
        obtain ⟨inside, staying | ⟨rfl, rfl⟩ | ⟨named, short, -, rfl⟩⟩ := step_cases taken
        · obtain ⟨entries, found⟩ := holds?_directory_iff.mp (old _ inside)
          obtain ⟨rfl | rfl, rfl⟩ := staying <;> simp only [FileTree.step, found]
        · obtain ⟨entries, found⟩ := holds?_directory_iff.mp (old _ inside)
          simp only [FileTree.step, found]
        · rw [step_of_name (old _ inside) named, if_neg (Nat.not_lt.mpr short), if_pos known]
      rw [stepped]
      exact ih walked

namespace Workspace

theorem read_eq_ok_iff {workspace : Workspace} {path : Path} {bytes : ByteArray} :
    workspace.read path = .ok bytes ↔
      ∃ place, workspace.place path = .ok place ∧ workspace.tree.holds? place = some (.file bytes) := by
  rw [read]
  cases placed : workspace.place path with
  | error error => simp [Except.bind]
  | ok place =>
    cases found : workspace.tree.find? place with
    | none => simp [Except.bind, FileTree.holds?, found]
    | some inner => cases inner <;> simp [Except.bind, FileTree.holds?, FileTree.holding, found]

theorem place_before {before after : Workspace} (home : after.home = before.home)
    (old : ∀ place, after.tree.holds? place = some .directory → before.tree.holds? place = some .directory)
    {path : Path} {there : Place} (placed : after.place path = .ok there)
    (present : (before.tree.holds? there).isSome) : before.place path = .ok there := by
  rw [place] at placed ⊢
  cases spelled : piecesOf path with
  | error error =>
    rw [spelled] at placed
    cases placed
  | ok pieces =>
    rw [spelled] at placed
    have start : before.start path = after.start path := by rw [start, start, home]
    have walked : after.tree.walk pieces (after.start path) = .ok there := placed
    rw [← start] at walked
    exact FileTree.walk_before old walked present

end Workspace

namespace Command

variable {invocation : Invocation} {directory : Path} {root : Place}

/-- The publication is made of what its file held when the run began. The path leads to the
file once the output directory is made. -/
def Publication.IsOriginal (invocation : Invocation) (workspace made : Workspace) (publication : Publication) :
    Prop :=
  ∃ place bytes, made.place publication.source = .ok place ∧
    workspace.tree.holds? place = some (.file bytes) ∧ Describes bytes publication.request ∧
    publication.request.render invocation.format invocation.options = .ok publication.content

theorem not_describes_rendered {request other : Request} {format : Format} {options : Options}
    {content : ByteArray} (rendered : request.render format options = .ok content) :
    ¬ Describes content other := by
  rintro ⟨text, decoded, read⟩
  obtain ⟨error, refused⟩ := Request.ofText_rendered rendered decoded
  rw [refused] at read
  cases read

namespace Publishes

variable {done : List Publication} {before after : Workspace}

theorem home_eq (publishes : Publishes invocation directory root done before after) : after.home = before.home := by
  induction publishes with
  | nil => rfl
  | cons _ _ home _ _ ih => exact ih.trans home

theorem rendered (publishes : Publishes invocation directory root done before after) :
    ∀ publication ∈ done,
      publication.request.render invocation.format invocation.options = .ok publication.content := by
  induction publishes with
  | nil =>
    intro publication inside
    cases inside
  | cons current _ _ _ _ ih => exact List.forall_mem_cons.mpr ⟨current.2, ih⟩

theorem holds_document (publishes : Publishes invocation directory root done before after)
    {publication : Publication} (inside : publication ∈ done) :
    ∃ last ∈ done, after.tree.holds? (publication.place invocation.format root) = some (.file last.content) := by
  induction publishes with
  | nil => cases inside
  | @cons first others before next after _ _ _ held rest ih =>
    by_cases later : after.tree.holds? (publication.place invocation.format root) =
        next.tree.holds? (publication.place invocation.format root)
    · rcases List.mem_cons.mp inside with rfl | inside
      · refine ⟨publication, List.mem_cons_self, ?_⟩
        rw [later, held, Function.update_self]
      · obtain ⟨last, there, holds⟩ := ih inside
        exact ⟨last, List.mem_cons_of_mem _ there, holds⟩
    · obtain ⟨last, there, -, holds⟩ := rest.changed later
      exact ⟨last, List.mem_cons_of_mem _ there, holds⟩

theorem directory_before (publishes : Publishes invocation directory root done before after) {place : Place}
    (inside : after.tree.holds? place = some .directory) : before.tree.holds? place = some .directory := by
  by_cases same : after.tree.holds? place = before.tree.holds? place
  · rw [← same, inside]
  · obtain ⟨_, _, _, document⟩ := publishes.changed same
    rw [inside] at document
    cases document

/-- The publications before one of them, and the state that it begins in. -/
theorem split {earlier later : List Publication} {publication : Publication}
    (publishes : Publishes invocation directory root (earlier ++ publication :: later) before after) :
    ∃ reached, Publishes invocation directory root earlier before reached ∧
      publication.IsCurrent invocation reached := by
  induction earlier generalizing before with
  | nil =>
    cases publishes with
    | cons current _ _ _ _ => exact ⟨before, .nil before, current⟩
  | cons first earlier ih =>
    cases publishes with
    | cons current free home held rest =>
      obtain ⟨reached, publishes, here⟩ := ih rest
      exact ⟨reached, .cons current free home held publishes, here⟩

/-- What is read after some publications is not what they have written. -/
theorem read_unwritten (publishes : Publishes invocation directory root done before after)
    {path : Path} {bytes : ByteArray} {request : Request} (read : after.read path = .ok bytes)
    (describes : Describes bytes request) :
    ∃ place, before.place path = .ok place ∧ before.tree.holds? place = some (.file bytes) ∧
      ∀ publication ∈ done, publication.place invocation.format root ≠ place := by
  obtain ⟨place, placed, holds⟩ := Workspace.read_eq_ok_iff.mp read
  have unwritten : ∀ publication ∈ done, publication.content ≠ bytes := by
    rintro publication inside rfl
    exact not_describes_rendered (publishes.rendered publication inside) describes
  have same : after.tree.holds? place = before.tree.holds? place := by
    by_contra different
    obtain ⟨publication, inside, -, document⟩ := publishes.changed different
    rw [holds, Option.some.injEq, Holding.file.injEq] at document
    exact unwritten publication inside document.symm
  rw [same] at holds
  refine ⟨place, ?_, holds, ?_⟩
  · exact Workspace.place_before publishes.home_eq (fun _ => publishes.directory_before) placed (by rw [holds]; rfl)
  · rintro publication inside rfl
    obtain ⟨last, there, document⟩ := publishes.holds_document inside
    rw [same, holds, Option.some.injEq, Holding.file.injEq] at document
    exact unwritten last there document.symm

end Publishes

theorem prepared_of_exitCode {arguments : List String} {workspace : Workspace} {filterText : Option String}
    {input : ByteArray} (understood : Invocation.ofArguments arguments = .ok invocation)
    (given : invocation.files ≠ []) (well : (run arguments filterText input workspace).exitCode = 0) :
    ∃ text made selection, invocation.output = some text ∧
      workspace.createDirectories ⟨text⟩ = (.ok (), made) ∧
      Selection.ofArguments made invocation.files = (.ok (), selection) := by
  have isEmpty : invocation.files.isEmpty = false := Bool.eq_false_iff.mpr (mt List.isEmpty_iff.mp given)
  simp only [run, understood, Invocation.perform, isEmpty, Invocation.documentFiles] at well
  cases output : invocation.output with
  | none => simp [output, Outcome.ofSession, Except.map] at well
  | some text =>
    refine ⟨text, ?_⟩
    rcases created : workspace.createDirectories ⟨text⟩ with ⟨error | ⟨⟩, made⟩
    · simp [output, created, Outcome.ofSession, Except.map] at well
    · rcases selected : Selection.ofArguments made invocation.files with ⟨error | ⟨⟩, selection⟩
      · simp [output, created, selected, Outcome.ofSession, Except.map] at well
      · exact ⟨made, selection, rfl, rfl, selected⟩

theorem published_of_exitCode {arguments : List String} {workspace : Workspace} {filterText : Option String}
    {input : ByteArray} (home : workspace.HasHome)
    (understood : Invocation.ofArguments arguments = .ok invocation) (given : invocation.files ≠ [])
    (well : (run arguments filterText input workspace).exitCode = 0) :
    ∃ text made selection root done, invocation.output = some text ∧
      workspace.createDirectories ⟨text⟩ = (.ok (), made) ∧
      Selection.ofArguments made invocation.files = (.ok (), selection) ∧ workspace.Grows made ∧
      made.Leads ⟨text⟩ root ∧ selection.files = done.map Publication.source ∧
      Publishes invocation ⟨text⟩ root done made (run arguments filterText input workspace).workspace := by
  obtain ⟨text, made, selection, output, created, selected⟩ := prepared_of_exitCode understood given well
  obtain ⟨grows, root, leads⟩ := Workspace.createDirectories_ok home created
  rw [run_files filterText input understood given output created selected] at well ⊢
  let session : Session := { workspace := made, log := selection.log }
  have reached : session.workspace.Leads ⟨text⟩ root := leads
  obtain ⟨done, rest, parted, publishes, ends⟩ := documentFiles_publish invocation selection.files reached
  rcases ran : eachStep (invocation.documentFile ⟨text⟩) selection.files
    { workspace := made, log := selection.log } with ⟨result, after⟩
  rw [ran] at publishes ends well
  rcases ends with ⟨rfl, ok⟩ | ⟨path, behind, error, message, cause, -, -, failed, -⟩
  · obtain rfl : result = .ok () := ok
    refine ⟨text, made, selection, root, done, output, created, selected, grows, leads, ?_, publishes⟩
    rw [parted, List.append_nil]
  · obtain rfl : result = .error error := failed
    cases well

/-- No document in any format can be read as a snapshot, so a run on files that ends well has
documented every file as it was when the run began. Had it written to a file before reading
it, it would not have ended well. -/
theorem run_documents_originals {arguments : List String} {workspace : Workspace}
    (filterText : Option String) (input : ByteArray) (home : workspace.HasHome)
    (understood : Invocation.ofArguments arguments = .ok invocation) (given : invocation.files ≠ [])
    (well : (run arguments filterText input workspace).exitCode = 0) :
    (∀ (request other : Request) format options content,
      request.render format options = .ok content → ¬ Describes content other) ∧
    ∃ text made selection root done, invocation.output = some text ∧
      workspace.createDirectories ⟨text⟩ = (.ok (), made) ∧
      Selection.ofArguments made invocation.files = (.ok (), selection) ∧ made.Leads ⟨text⟩ root ∧
      selection.files = done.map Publication.source ∧
      Publishes invocation ⟨text⟩ root done made (run arguments filterText input workspace).workspace ∧
      (∀ publication ∈ done, publication.IsOriginal invocation workspace made) ∧
      ∀ earlier publication later, done = earlier ++ publication :: later → ∀ other ∈ earlier,
        made.place publication.source ≠ .ok (other.place invocation.format root) := by
  refine ⟨fun request other format options content => not_describes_rendered, ?_⟩
  obtain ⟨text, made, selection, root, done, output, created, selected, grows, leads, all, publishes⟩ :=
    published_of_exitCode home understood given well
  refine ⟨text, made, selection, root, done, output, created, selected, leads, all, publishes, ?_, ?_⟩
  · intro publication inside
    obtain ⟨earlier, later, rfl⟩ := List.append_of_mem inside
    obtain ⟨reached, before, ⟨⟨bytes, read, describes⟩, rendered⟩⟩ := publishes.split
    obtain ⟨place, placed, holds, -⟩ := before.read_unwritten read describes
    refine ⟨place, bytes, placed, ?_, describes, rendered⟩
    rcases grows.held place with old | ⟨-, new⟩
    · rw [← old, holds]
    · rw [holds] at new
      cases new
  · rintro earlier publication later rfl other inside placed
    obtain ⟨reached, before, ⟨⟨bytes, read, describes⟩, -⟩⟩ := publishes.split
    obtain ⟨place, there, -, unwritten⟩ := before.read_unwritten read describes
    rw [placed, Except.ok.injEq] at there
    exact unwritten other inside there

def namesake : Workspace where
  tree := .directory [("w", .directory
    [("A.json", .file "\x7b\"className\":\"A\",\"type\":\"REPORTING_TASK\"\x7d".toUTF8)])]
  home := ["w"]

/-- The document takes the place of the snapshot that it was made of. -/
theorem run_documents_originals_namesake :
    let invocation : Invocation := { files := ["A.json"], output := some ".", format := .json }
    let outcome := run ["-f", "json", "-o", ".", "A.json"] none .empty namesake
    ∃ root publication, publication.source = ⟨"A.json"⟩ ∧
      Publishes invocation ⟨"."⟩ root [publication] namesake outcome.workspace ∧
      publication.IsOriginal invocation namesake namesake := by
  intro invocation outcome
  have well : outcome.exitCode = 0 := by decide +kernel
  obtain ⟨-, text, made, selection, root, done, output, created, selected, -, all, publishes, originals, -⟩ :=
    @run_documents_originals invocation ["-f", "json", "-o", ".", "A.json"] namesake none .empty rfl rfl nofun well
  cases output
  cases created
  cases selected
  have all : [⟨"A.json"⟩] = done.map Publication.source := all
  obtain ⟨publication, rfl, source⟩ := List.map_eq_singleton_iff.mp all.symm
  exact ⟨root, publication, source, publishes, originals publication List.mem_cons_self⟩

end Command

end ComponentDocs
