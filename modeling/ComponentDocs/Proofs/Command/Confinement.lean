import ComponentDocs.Proofs.Command.Originals
import ComponentDocs.Proofs.Document.FileName
import ComponentDocs.Proofs.Files.Parts

/-! Where documents go. A class name is text from outside and becomes the name of a file, so nothing
in it may lead out of the output directory, and it is known which class names share a file. -/
namespace ComponentDocs

open FileTree (Place)

namespace Command

/-- What may be different in a place after a run with an output directory: that directory is new
there, or one that leads to it, or the document of a request is there, directly inside. -/
inductive OutputChange (format : Format) (directory : Path) (before after : Workspace) : Place → Prop
  | made {path : Path} {place : Place} (leading : path.parts <+: directory.parts)
      (new : before.tree.holds? place = none) (made : after.tree.holds? place = some .directory)
      (leads : after.Leads path place) : OutputChange format directory before after place
  | written {root : Place} (request : Request) {content : ByteArray} (leads : after.Leads directory root)
      (written : after.tree.holds? (root ++ [request.fileName format]) = some (.file content)) :
      OutputChange format directory before after (root ++ [request.fileName format])

theorem outputChange_of_opens {format : Format} {directory : Path} {before made after : Workspace}
    (opens : before.Opens (directory :: directory.ancestors) made) (home : after.home = made.home)
    (outlasts : FileTree.Outlasts made.tree after.tree) {place : Place}
    (different : made.tree.holds? place ≠ before.tree.holds? place) :
    OutputChange format directory before after place := by
  obtain ⟨path, leading, leads⟩ := opens.leads place different
  obtain ⟨new, -⟩ := (opens.grows.held place).resolve_left different
  have leads := leads.outlasts home outlasts
  exact .made (Path.parts_prefix leading) new leads.2 leads

section Run

variable {invocation : Invocation} {workspace : Workspace} {text : String}

/-- The files of a run, also of one that fails, go into its output directory. -/
theorem documentFiles_change (home : workspace.HasHome) (output : invocation.output = some text)
    {place : Place} :
    let after := (invocation.documentFiles { workspace }).2.workspace
    after.tree.holds? place ≠ workspace.tree.holds? place →
      OutputChange invocation.format ⟨text⟩ workspace after place := by
  intro after different
  have opens := Workspace.createDirectories_opens home ⟨text⟩
  have unfolded : after = (invocation.documentFiles { workspace }).2.workspace := rfl
  rcases created : workspace.createDirectories ⟨text⟩ with ⟨error | ⟨⟩, made⟩
  · rw [created] at opens
    simp only [Invocation.documentFiles, output, created] at unfolded
    subst unfolded
    exact outputChange_of_opens opens rfl ⟨fun _ => id, fun _ => id⟩ different
  rw [created] at opens
  rcases selected : Selection.ofArguments made invocation.files with ⟨error | ⟨⟩, selection⟩
  · simp only [Invocation.documentFiles, output, created, selected, Session.note] at unfolded
    subst unfolded
    exact outputChange_of_opens opens rfl ⟨fun _ => id, fun _ => id⟩ different
  obtain ⟨-, root, leads⟩ := Workspace.createDirectories_ok home created
  let session : Session := { workspace := made, log := selection.log }
  have reached : session.workspace.Leads ⟨text⟩ root := leads
  obtain ⟨done, -, -, publishes, -⟩ := documentFiles_publish invocation selection.files reached
  simp only [Invocation.documentFiles, output, created, selected, Session.note, List.nil_append] at unfolded
  rw [← unfolded] at publishes
  by_cases same : after.tree.holds? place = made.tree.holds? place
  · rw [same] at different
    exact outputChange_of_opens opens publishes.home_eq publishes.outlasts different
  · obtain ⟨publication, -, rfl, written⟩ := publishes.changed same
    exact .written publication.request (leads.outlasts publishes.home_eq publishes.outlasts) written

theorem Outcome.workspace_ofSession (result : Except RunError ByteArray) (session : Session) :
    (Outcome.ofSession result session).workspace = session.workspace := by
  cases result <;> rfl

theorem Invocation.workspace_perform (invocation : Invocation) (input : ByteArray) (workspace : Workspace) :
    (invocation.perform input workspace).workspace =
      if invocation.files.isEmpty then workspace
      else (invocation.documentFiles { workspace }).2.workspace := by
  rw [perform]
  split
  · exact Outcome.workspace_ofSession _ _
  · exact Outcome.workspace_ofSession _ _

theorem run_changes {arguments : List String} (filterText : Option String) (input : ByteArray)
    (home : workspace.HasHome) {place : Place} :
    let outcome := run arguments filterText input workspace
    outcome.workspace.tree.holds? place ≠ workspace.tree.holds? place →
      ∃ invocation text, Invocation.ofArguments arguments = .ok invocation ∧ invocation.files ≠ [] ∧
        invocation.output = some text ∧
        OutputChange invocation.format ⟨text⟩ workspace outcome.workspace place := by
  intro outcome different
  have unfolded : outcome = run arguments filterText input workspace := rfl
  rw [run] at unfolded
  rcases understood : Invocation.ofArguments arguments with (_ | _) | invocation
  · simp only [understood] at unfolded
    exact absurd (by rw [unfolded]) different
  · simp only [understood] at unfolded
    exact absurd (by rw [unfolded]) different
  simp only [understood] at unfolded
  have after : outcome.workspace = (invocation.perform input workspace).workspace := by rw [unfolded]
  rw [invocation.workspace_perform] at after
  cases given : invocation.files.isEmpty with
  | true =>
    rw [given] at after
    exact absurd (by rw [after]; rfl) different
  | false =>
    rw [given] at after
    have after : outcome.workspace = (invocation.documentFiles { workspace }).2.workspace := after
    cases output : invocation.output with
    | none =>
      simp only [Invocation.documentFiles, output] at after
      exact absurd (by rw [after]) different
    | some text =>
      refine ⟨invocation, text, rfl, mt List.isEmpty_iff.mpr (Bool.eq_false_iff.mp given), output, ?_⟩
      rw [after] at different ⊢
      exact documentFiles_change home output different

end Run

/-- Whatever class names contain, a run changes nothing but its output directory, those that lead to
it, and files directly inside, each named by its class name: one part of a path, neither `.` nor
`..`, and without slashes and null characters. A name that is made this way stays as it is, and
two class names share one just if, with `extension` for none, they have as many characters, each
pair of which is one character or two that are underscores in file names. -/
theorem outputs_confined {arguments : List String} {workspace : Workspace} (filterText : Option String)
    (input : ByteArray) (home : workspace.HasHome) :
    (∀ (request : Request) (format : Format),
      let name := request.fileName format
      Path.IsPlain name ∧ '\x00' ∉ name.toList ∧ Path.parts ⟨name⟩ = [.name name] ∧
        ∀ directory : Path, (directory.join name).parts = directory.parts ++ [.name name]) ∧
      (∀ className, documentName (documentName className) = documentName className) ∧
      (∀ first second, documentName first = documentName second ↔
        List.Forall₂ LooksAs (presentName first).toList (presentName second).toList) ∧
      let outcome := run arguments filterText input workspace
      ∀ place, outcome.workspace.tree.holds? place ≠ workspace.tree.holds? place →
        ∃ invocation text, Invocation.ofArguments arguments = .ok invocation ∧ invocation.files ≠ [] ∧
          invocation.output = some text ∧
          OutputChange invocation.format ⟨text⟩ workspace outcome.workspace place := by
  refine ⟨fun request format => ?_, documentName_documentName, fun first second => documentName_inj,
    fun place => run_changes filterText input home⟩
  have plain := request.isPlain_fileName format
  refine ⟨plain, fun null => ?_, Path.parts_join ⟨""⟩ plain, fun directory => Path.parts_join directory plain⟩
  have kept := Request.isKept_of_mem_fileName null
  revert kept
  decide +kernel

def upwards : Workspace where
  tree := .directory [("w", .directory
    [("a.json", .file "\x7b\"className\":\"../x$\",\"type\":\"REPORTING_TASK\"\x7d".toUTF8)])]
  home := ["w"]

/-- Its document stays inside, where that of another class name could replace it. -/
theorem outputs_confined_upwards :
    let outcome := run ["-o", "out/deep", "a.json"] none .empty upwards
    upwards.HasHome ∧ List.Forall₂ LooksAs "../x$".toList ".._x/".toList ∧
      ∀ place ∈ [["w", "out"], ["w", "out", "deep"], ["w", "out", "deep", ".._x_.xml"]],
        OutputChange .xml ⟨"out/deep"⟩ upwards outcome.workspace place := by
  intro outcome
  have home : upwards.HasHome := rfl
  obtain ⟨-, -, shared, changes⟩ :=
    @outputs_confined ["-o", "out/deep", "a.json"] upwards none .empty home
  have same : documentName "../x$" = documentName ".._x/" := by decide +kernel
  refine ⟨home, (shared _ _).mp same, fun place there => ?_⟩
  have new : (upwards.tree.holds? place).isSome = false ∧ (outcome.workspace.tree.holds? place).isSome := by
    revert place
    decide +kernel
  have different : outcome.workspace.tree.holds? place ≠ upwards.tree.holds? place := by
    intro kept
    rw [kept, new.1] at new
    cases new.2
  obtain ⟨invocation, text, understood, -, output, change⟩ := changes place different
  have known : Invocation.ofArguments ["-o", "out/deep", "a.json"] =
    .ok { files := ["a.json"], output := some "out/deep" } := rfl
  obtain rfl := Except.ok.inj (known.symm.trans understood)
  obtain rfl := Option.some.inj output
  exact change

end Command

end ComponentDocs
