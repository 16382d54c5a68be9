import ComponentDocs.Command.Run
import ComponentDocs.Proofs.Document.FileName
import ComponentDocs.Proofs.Document.Text
import ComponentDocs.Proofs.Files.Writing

/-! Runs on files. A run publishes the documents of its files one after another, each made of
what its file holds at that time and put in place as a whole, up to the first file that
fails. -/
namespace ComponentDocs

open FileTree (IsName Outlasts Place)

theorem Request.isPlain_fileName (format : Format) (request : Request) :
    Path.IsPlain (request.fileName format) := by
  obtain ⟨letter, there, notDot⟩ : ∃ letter ∈ (Vocabulary.name format).toList, letter ≠ '.' := by
    cases format with
    | xml => exact ⟨'x', by decide, by decide⟩
    | json => exact ⟨'j', by decide, by decide⟩
  have inside : letter ∈ (request.fileName format).toList := by
    rw [fileName, String.toList_append]
    exact List.mem_append_right _ there
  refine ⟨⟨?_, ?_, ?_⟩, ?_⟩
  · exact List.ne_nil_of_mem inside
  · intro same
    simp [same, notDot] at inside
  · intro same
    simp [same, notDot] at inside
  · intro slash
    have kept := isKept_of_mem_fileName slash
    revert kept
    decide +kernel

namespace Command

/-- What some bytes come down to: they are UTF-8, and their text is a snapshot. -/
def Describes (bytes : ByteArray) (request : Request) : Prop :=
  ∃ text, String.fromUTF8? bytes = some text ∧ Request.ofText text = .ok request

theorem documentOf_cases (invocation : Invocation) (source : Source) (bytes : ByteArray) :
    (∃ request content, Describes bytes request ∧
        request.render invocation.format invocation.options = .ok content ∧
        (invocation.documentOf source bytes).1 = .ok ⟨request.fileName invocation.format, content⟩) ∨
      (String.fromUTF8? bytes = none ∧
        (invocation.documentOf source bytes).1 = .error (.unreadable source .notUnicode)) ∨
      ∃ text error, String.fromUTF8? bytes = some text ∧ Request.ofText text = .error error ∧
        (invocation.documentOf source bytes).1 = .error (.unsuitable source error) := by
  rw [Invocation.documentOf]
  cases decoded : String.fromUTF8? bytes with
  | none => exact .inr (.inl ⟨rfl, rfl⟩)
  | some text =>
    simp only [Invocation.documentOfText]
    cases parsed : Json.parse text with
    | error fault =>
      refine .inr (.inr ⟨text, .fault fault, rfl, ?_, rfl⟩)
      simp only [Request.ofText, parsed]
    | ok json =>
      cases read : Request.ofJson json with
      | error error =>
        refine .inr (.inr ⟨text, error, rfl, ?_, by simp only [read]⟩)
        simp only [Request.ofText, parsed, read]
      | ok request =>
        have rendered := request.render_eq invocation.format invocation.options
        refine .inl ⟨request, _, ⟨text, decoded, ?_⟩, rendered, ?_⟩
        · simp only [Request.ofText, parsed, read]
        · rw [Request.render] at rendered
          rcases noted : request.renderNoting invocation.format invocation.options with ⟨result, told⟩
          rw [noted] at rendered
          obtain rfl : result = .ok _ := rendered
          simp only [read, noted]

/-- A document of a run on files, with the file and the request that it was made of. -/
structure Publication where
  source : Path
  request : Request
  content : ByteArray

namespace Publication

/-- The publication is the document of its file as the workspace has it. -/
def IsCurrent (invocation : Invocation) (workspace : Workspace) (publication : Publication) : Prop :=
  (∃ bytes, workspace.read publication.source = .ok bytes ∧ Describes bytes publication.request) ∧
    publication.request.render invocation.format invocation.options = .ok publication.content

def name (format : Format) (publication : Publication) : String := publication.request.fileName format

def place (format : Format) (root : Place) (publication : Publication) : Place :=
  root ++ [publication.name format]

end Publication

/-- What all places hold after some publications, each of which replaces what was in its
place. -/
def published (format : Format) (root : Place) (done : List Publication) (held : Place → Option Holding) :
    Place → Option Holding :=
  done.foldl
    (fun held publication =>
      Function.update held (publication.place format root) (some (.file publication.content)))
    held

section Runs

variable (invocation : Invocation) (directory : Path) (root : Place)

/-- Publications that lead from one state of the workspace to another. Each is of its file as
the ones before it left it, and replaces its place and nothing else. -/
inductive Publishes : List Publication → Workspace → Workspace → Prop
  | nil (workspace : Workspace) : Publishes [] workspace workspace
  | cons {publication : Publication} {others : List Publication} {before next after : Workspace}
      (current : publication.IsCurrent invocation before)
      (free : before.obstacle? directory root (publication.name invocation.format) = none)
      (home : next.home = before.home)
      (held : next.tree.holds? = Function.update before.tree.holds?
        (publication.place invocation.format root) (some (.file publication.content)))
      (rest : Publishes others next after) : Publishes (publication :: others) before after

/-- Why no document comes of a file: what the report says, and what is behind it. -/
inductive Fails (workspace : Workspace) (path : Path) : (message cause : String) → Prop
  | unreadable {error : FileError} (refused : workspace.read path = .error error) :
      Fails workspace path ("failed to read " ++ path.text) error.message
  | notUnicode {bytes : ByteArray} (read : workspace.read path = .ok bytes)
      (undecodable : String.fromUTF8? bytes = none) :
      Fails workspace path ("failed to read " ++ path.text) "stream did not contain valid UTF-8"
  | unsuitable {bytes : ByteArray} {text : String} {error : Snapshot.ReadError}
      (read : workspace.read path = .ok bytes) (decoded : String.fromUTF8? bytes = some text)
      (refused : Request.ofText text = .error error) :
      Fails workspace path ("invalid component snapshot in " ++ path.text) error.message
  | unwritten {publication : Publication} {error : FileError} (source : publication.source = path)
      (current : publication.IsCurrent invocation workspace)
      (obstacle : workspace.obstacle? directory root (publication.name invocation.format) = some error) :
      Fails workspace path
        ("failed to write " ++ (directory.join (publication.name invocation.format)).text) error.message

end Runs

variable {invocation : Invocation} {directory : Path} {root : Place}

theorem outlasts_of_published {publication : Publication} {before next : Workspace}
    (free : before.obstacle? directory root (publication.name invocation.format) = none)
    (held : next.tree.holds? = Function.update before.tree.holds?
      (publication.place invocation.format root) (some (.file publication.content))) :
    Outlasts before.tree next.tree := .of_update (Workspace.not_directory_of_free free) held

namespace Publishes

variable {done : List Publication} {before after : Workspace}

theorem outlasts (publishes : Publishes invocation directory root done before after) :
    Outlasts before.tree after.tree := by
  induction publishes with
  | nil => exact ⟨fun _ => id, fun _ => id⟩
  | cons _ free _ held _ ih =>
    have first := outlasts_of_published free held
    exact ⟨fun place inside => ih.directories place (first.directories place inside),
      fun place there => ih.places place (first.places place there)⟩

theorem holds?_eq (publishes : Publishes invocation directory root done before after) :
    after.tree.holds? = published invocation.format root done before.tree.holds? := by
  induction publishes with
  | nil => rfl
  | cons _ _ _ held _ ih => rw [ih, held, published, published, List.foldl_cons]

theorem changed (publishes : Publishes invocation directory root done before after) {place : Place}
    (different : after.tree.holds? place ≠ before.tree.holds? place) :
    ∃ publication ∈ done, publication.place invocation.format root = place ∧
      after.tree.holds? place = some (.file publication.content) := by
  induction publishes with
  | nil => exact absurd rfl different
  | @cons publication others before next after _ _ _ held _ ih =>
    -- The last publication of a place decides, so the later ones come first.
    by_cases later : after.tree.holds? place = next.tree.holds? place
    · rw [later, held, Function.update_apply] at different
      split at different
      · next same =>
        refine ⟨publication, List.mem_cons_self, same.symm, ?_⟩
        rw [later, held, same, Function.update_self]
      · exact absurd rfl different
    · obtain ⟨other, there, rest⟩ := ih later
      exact ⟨other, List.mem_cons_of_mem _ there, rest⟩

end Publishes

section File

variable {path : Path} {session : Session} {bytes : ByteArray}

theorem documentFile_refused {error : RunError} (read : session.workspace.read path = .ok bytes)
    (refused : (invocation.documentOf (.file path) bytes).1 = .error error) :
    (invocation.documentFile directory path session).1 = .error error ∧
      (invocation.documentFile directory path session).2.workspace = session.workspace := by
  rcases document : invocation.documentOf (.file path) bytes with ⟨result, log⟩
  rw [document] at refused
  obtain rfl : result = .error error := refused
  simp only [Invocation.documentFile, read, document, Session.note, and_self]

theorem documentFile_rendered {document : Rendered} (leads : session.workspace.Leads directory root)
    (read : session.workspace.read path = .ok bytes)
    (rendered : (invocation.documentOf (.file path) bytes).1 = .ok document)
    (plain : Path.IsPlain document.fileName) :
    let outcome := invocation.documentFile directory path session
    match session.workspace.obstacle? directory root document.fileName with
    | some error =>
      outcome.1 = .error (.unwritten (directory.join document.fileName) error) ∧
        outcome.2.workspace = session.workspace
    | none =>
      outcome.1 = .ok () ∧
        outcome.2.workspace =
          session.workspace.put document.fileName.toList (.file document.content) root := by
  have written := Workspace.write_join leads plain document.content
  rcases known : invocation.documentOf (.file path) bytes with ⟨result, log⟩
  rw [known] at rendered
  obtain rfl : result = .ok document := rendered
  simp only [Invocation.documentFile, read, known, Session.note, written]
  cases session.workspace.obstacle? directory root document.fileName with
  | some error => exact ⟨rfl, rfl⟩
  | none => exact ⟨rfl, rfl⟩

/-- One file is published, or fails and leaves everything as it is. -/
theorem documentFile_cases (invocation : Invocation) (path : Path)
    (leads : session.workspace.Leads directory root) :
    let outcome := invocation.documentFile directory path session
    (∃ publication : Publication, publication.source = path ∧
        publication.IsCurrent invocation session.workspace ∧
        session.workspace.obstacle? directory root (publication.name invocation.format) = none ∧
        outcome.1 = .ok () ∧
        outcome.2.workspace = session.workspace.put (publication.name invocation.format).toList
          (.file publication.content) root) ∨
      ∃ error message cause, Fails invocation directory root session.workspace path message cause ∧
        error.message = message ∧ error.causes = [cause] ∧ outcome.1 = .error error ∧
        outcome.2.workspace = session.workspace := by
  intro outcome
  cases read : session.workspace.read path with
  | error error =>
    refine .inr ⟨.unreadable (.file path) (.access error), _, _, .unreadable read, rfl, rfl, ?_⟩
    simp only [outcome, Invocation.documentFile, read, and_self]
  | ok bytes =>
    rcases documentOf_cases invocation (.file path) bytes with
      ⟨request, content, describes, complete, rendered⟩ | ⟨undecodable, refused⟩ |
        ⟨text, error, decoded, unsuitable, refused⟩
    · have current : Publication.IsCurrent invocation session.workspace ⟨path, request, content⟩ :=
        ⟨⟨bytes, read, describes⟩, complete⟩
      have written := documentFile_rendered leads read rendered (request.isPlain_fileName _)
      cases obstacle : session.workspace.obstacle? directory root (request.fileName invocation.format) with
      | some error =>
        simp only [obstacle] at written
        exact .inr ⟨.unwritten _ error, _, _, .unwritten rfl current obstacle, rfl, rfl, written⟩
      | none =>
        simp only [obstacle] at written
        exact .inl ⟨⟨path, request, content⟩, rfl, current, obstacle, written⟩
    · exact .inr ⟨.unreadable (.file path) .notUnicode, _, _, .notUnicode read undecodable, rfl, rfl,
        documentFile_refused read refused⟩
    · exact .inr ⟨.unsuitable (.file path) error, _, _, .unsuitable read decoded unsuitable, rfl, rfl,
        documentFile_refused read refused⟩

end File

theorem documentFiles_publish (invocation : Invocation) (files : List Path) {session : Session}
    (leads : session.workspace.Leads directory root) :
    let outcome := eachStep (invocation.documentFile directory) files session
    ∃ done rest, files = done.map Publication.source ++ rest ∧
      Publishes invocation directory root done session.workspace outcome.2.workspace ∧
      (rest = [] ∧ outcome.1 = .ok () ∨
        ∃ path behind error message cause, rest = path :: behind ∧
          Fails invocation directory root outcome.2.workspace path message cause ∧
          outcome.1 = .error error ∧ error.message = message ∧ error.causes = [cause]) := by
  induction files generalizing session with
  | nil => exact ⟨[], [], rfl, .nil _, .inl ⟨rfl, rfl⟩⟩
  | cons path files ih =>
    intro outcome
    have first := documentFile_cases invocation path leads
    have unfolded : outcome = eachStep (invocation.documentFile directory) (path :: files) session := rfl
    rcases taken : invocation.documentFile directory path session with ⟨result, next⟩
    rw [taken] at first
    rcases first with ⟨publication, rfl, current, free, ok, put⟩ |
      ⟨error, message, cause, fails, stated, behind, failed, same⟩
    · obtain rfl : result = .ok () := ok
      simp only [eachStep, taken] at unfolded
      have put : next.workspace = _ := put
      -- The output directory is where it was, so the next file finds the same places.
      obtain ⟨home, held, there⟩ := leads.put_file free publication.content
      rw [← put] at home held there
      obtain ⟨done, rest, parted, publishes, ends⟩ := ih there
      rw [unfolded]
      refine ⟨publication :: done, rest, ?_, .cons current free home held publishes, ends⟩
      rw [parted, List.map_cons, List.cons_append]
    · obtain rfl : result = .error error := failed
      simp only [eachStep, taken] at unfolded
      rw [unfolded]
      have same : next.workspace = session.workspace := same
      refine ⟨[], path :: files, rfl, ?_, .inr ⟨path, files, error, message, cause, rfl, ?_, rfl, stated, behind⟩⟩
      · rw [same]
        exact .nil _
      · rwa [same]

theorem RunError.report_of_cause {error : RunError} {cause : String} (behind : error.causes = [cause]) :
    error.report =
      "Error: " ++ error.message ++ "\n\nCaused by:\n" ++ RunError.indented cause ++ "\n" := by
  have joined : "\n\nCaused by:\n" = "\n" ++ "\nCaused by:\n" := rfl
  rw [report, behind, joined]
  simp only [String.append_assoc]

/-- How a run on files ends: well, or with a report on the file that it stops at. -/
inductive Ends (invocation : Invocation) (directory : Path) (root : Place) (outcome : Outcome) :
    (rest : List Path) → Prop
  | well (exitCode : outcome.exitCode = 0) (report : outcome.report = "") :
      Ends invocation directory root outcome []
  | failed {path : Path} {message cause : String} (behind : List Path)
      (fails : Fails invocation directory root outcome.workspace path message cause)
      (exitCode : outcome.exitCode = 1)
      (report : outcome.report =
        "Error: " ++ message ++ "\n\nCaused by:\n" ++ RunError.indented cause ++ "\n") :
      Ends invocation directory root outcome (path :: behind)

theorem Ends.exitCode_eq_zero_iff {outcome : Outcome} {rest : List Path}
    (ends : Ends invocation directory root outcome rest) : outcome.exitCode = 0 ↔ rest = [] := by
  cases ends with
  | well exitCode => simp [exitCode]
  | failed _ _ exitCode => simp [exitCode]

theorem run_files {arguments : List String} {text : String} {workspace made : Workspace}
    {selection : Selection} (filterText : Option String) (input : ByteArray)
    (understood : Invocation.ofArguments arguments = .ok invocation) (given : invocation.files ≠ [])
    (output : invocation.output = some text)
    (created : workspace.createDirectories ⟨text⟩ = (.ok (), made))
    (selected : Selection.ofArguments made invocation.files = (.ok (), selection)) :
    let ran := eachStep (invocation.documentFile ⟨text⟩) selection.files
      { workspace := made, log := selection.log }
    let outcome := Outcome.ofSession (ran.1.map fun () => .empty) ran.2
    run arguments filterText input workspace =
      { outcome with log := outcome.log.filter (logFilter filterText invocation.verbose).admits } := by
  have isEmpty : invocation.files.isEmpty = false := Bool.eq_false_iff.mpr (mt List.isEmpty_iff.mp given)
  have documents : invocation.documentFiles { workspace } =
      eachStep (invocation.documentFile ⟨text⟩) selection.files
        { workspace := made, log := selection.log } := by
    simp only [Invocation.documentFiles, output, created, selected, Session.note, List.nil_append]
  simp only [run, understood, Invocation.perform, isEmpty, documents]
  rfl

/-- A run on files publishes the documents of the first of them, and is stopped by nothing
but a file that fails. Whatever is different afterwards is a whole document or a new
directory. -/
theorem run_publishes {arguments : List String} {text : String} {workspace made : Workspace}
    {selection : Selection} (filterText : Option String) (input : ByteArray)
    (home : workspace.HasHome)
    (understood : Invocation.ofArguments arguments = .ok invocation) (given : invocation.files ≠ [])
    (output : invocation.output = some text)
    (created : workspace.createDirectories ⟨text⟩ = (.ok (), made))
    (selected : Selection.ofArguments made invocation.files = (.ok (), selection)) :
    let outcome := run arguments filterText input workspace
    workspace.Grows made ∧ outcome.output = .empty ∧
      ∃ root done rest, made.Leads ⟨text⟩ root ∧
        selection.files = done.map Publication.source ++ rest ∧
        Publishes invocation ⟨text⟩ root done made outcome.workspace ∧
        outcome.workspace.tree.holds? = published invocation.format root done made.tree.holds? ∧
        (∀ place, outcome.workspace.tree.holds? place ≠ workspace.tree.holds? place →
          workspace.tree.holds? place = none ∧ outcome.workspace.tree.holds? place = some .directory ∨
            ∃ publication ∈ done, publication.place invocation.format root = place ∧
              outcome.workspace.tree.holds? place = some (.file publication.content)) ∧
        Ends invocation ⟨text⟩ root outcome rest ∧ (outcome.exitCode = 0 ↔ rest = []) := by
  obtain ⟨grows, root, leads⟩ := Workspace.createDirectories_ok home created
  rw [run_files filterText input understood given output created selected]
  let session : Session := { workspace := made, log := selection.log }
  have leads : session.workspace.Leads ⟨text⟩ root := leads
  obtain ⟨done, rest, parted, publishes, ends⟩ :=
    documentFiles_publish invocation selection.files leads
  rcases ran : eachStep (invocation.documentFile ⟨text⟩) selection.files
    { workspace := made, log := selection.log } with ⟨result, after⟩
  rw [ran] at publishes ends
  intro outcome
  have same : outcome.workspace = after.workspace ∧ outcome.output = .empty := by
    cases result <;> exact ⟨rfl, rfl⟩
  have publishes : Publishes invocation ⟨text⟩ root done made outcome.workspace := same.1 ▸ publishes
  have ends : Ends invocation ⟨text⟩ root outcome rest := by
    rcases ends with ⟨rfl, ok⟩ | ⟨path, behind, error, message, cause, rfl, fails, failed, rfl, caused⟩
    · obtain rfl : result = .ok () := ok
      exact .well rfl rfl
    · obtain rfl : result = .error error := failed
      exact .failed behind fails rfl (RunError.report_of_cause caused)
  refine ⟨grows, same.2, root, done, rest, leads, parted, publishes, publishes.holds?_eq,
    fun place different => ?_, ends, ends.exitCode_eq_zero_iff⟩
  by_cases later : outcome.workspace.tree.holds? place = made.tree.holds? place
  · rw [later] at different ⊢
    exact .inl ((grows.held place).resolve_left different)
  · exact .inr (publishes.changed later)

/-- A directory with a snapshot, a file that is none, and what else there is. -/
def twoFiles (others : List (String × FileTree)) : Workspace where
  tree := .directory [("w", .directory <|
    [("a.json", .file "\x7b\"className\":\"A\",\"type\":\"REPORTING_TASK\"\x7d".toUTF8),
      ("b.json", .file "x".toUTF8)] ++ others)]
  home := ["w"]

/-- Of these two files the first is published, and the run ends at the second. -/
theorem run_publishes_first_of_two :
    let invocation : Invocation := { files := ["a.json", "b.json"], output := some "out" }
    let outcome := run ["-o", "out", "a.json", "b.json"] none .empty (twoFiles [])
    ∃ root publication, publication.source = ⟨"a.json"⟩ ∧
      Publishes invocation ⟨"out"⟩ root [publication] (twoFiles [("out", .empty)]) outcome.workspace ∧
      Ends invocation ⟨"out"⟩ root outcome [⟨"b.json"⟩] := by
  intro invocation outcome
  obtain ⟨-, -, root, done, rest, -, parted, publishes, -, changed, ends, succeeds⟩ :=
    @run_publishes invocation ["-o", "out", "a.json", "b.json"] "out" (twoFiles [])
      (twoFiles [("out", .empty)]) { files := [⟨"a.json"⟩, ⟨"b.json"⟩] } none .empty
      rfl rfl nofun rfl rfl rfl
  obtain ⟨fails, new, isFile⟩ : outcome.exitCode ≠ 0 ∧
      (outcome.workspace.tree.holds? ["w", "out", "A.xml"]).isSome ∧
      outcome.workspace.tree.holds? ["w", "out", "A.xml"] ≠ some .directory := by
    decide +kernel
  have stopped : 0 < rest.length := List.length_pos_iff.mpr (mt succeeds.mpr fails)
  have different : outcome.workspace.tree.holds? ["w", "out", "A.xml"] ≠
      (twoFiles []).tree.holds? ["w", "out", "A.xml"] := by
    intro same
    rw [same] at new
    cases new
  obtain ⟨_, there, -⟩ := (changed _ different).resolve_left fun made => isFile made.2
  have begun : 0 < done.length := List.length_pos_of_mem there
  have both : 2 = done.length + rest.length := by simpa using congrArg List.length parted
  obtain ⟨publication, rfl⟩ := List.length_eq_one_iff.mp (show done.length = 1 by omega)
  obtain ⟨path, rfl⟩ := List.length_eq_one_iff.mp (show rest.length = 1 by omega)
  obtain ⟨first, second⟩ : ⟨"a.json"⟩ = publication.source ∧ ⟨"b.json"⟩ = path := by
    simpa using parted
  exact ⟨root, publication, first.symm, publishes, second ▸ ends⟩

end Command

end ComponentDocs
