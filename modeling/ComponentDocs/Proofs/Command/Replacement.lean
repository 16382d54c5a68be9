import ComponentDocs.Proofs.Command.Log
import ComponentDocs.Proofs.Command.Originals
import Mathlib.Data.Finset.Card
import Mathlib.Data.List.Basic

/-! Documents that take the place of other files. A run warns of each of them, whether the file was
there before the run or is a document of the run itself, and what stays in a place is the last
document that was put there. -/
namespace ComponentDocs

open Log (Event)
open FileTree (Place)

/-- A warning that a document takes the place of another file. -/
def Log.Event.isOverwriting (event : Event) : Bool :=
  event.level = .warn && event.message = "overwriting existing document"

namespace Command

theorem filter_renderNoting_overwriting (request : Request) (format : Format) (options : Options) :
    (request.renderNoting format options).2.filter Event.isOverwriting = [] := by
  have opening : request.openingEvent.isOverwriting = false := rfl
  have closing : request.closingEvent.isOverwriting = false := rfl
  have told : (request.told format).filter Event.isOverwriting = [] := by
    cases format with
    | json => rfl
    | xml =>
      have fallBack (name : String) : (Log.fallBackEvent name).isOverwriting = false := rfl
      rw [Request.told]
      cases request.component.properties with
      | nil => rfl
      | cons first others =>
        simp only [Section.told, List.filter_cons, List.filter_map, Function.comp_def, fallBack, List.filter_false]
        rfl
  simp only [request.renderNoting_told, List.filter_cons, List.filter_append, opening, closing, told]
  rfl

theorem filter_documentOf_log (invocation : Invocation) (source : Source) (bytes : ByteArray) :
    (invocation.documentOf source bytes).2.filter Event.isOverwriting = [] := by
  rw [Invocation.documentOf]
  cases String.fromUTF8? bytes with
  | none => rfl
  | some text =>
    simp only [Invocation.documentOfText]
    cases Json.parse text with
    | error fault => rfl
    | ok json =>
      have form : (if json.isWrapped then [] else [bareEvent]).filter Event.isOverwriting = [] := by
        split <;> rfl
      cases read : Request.ofJson json with
      | error error => simp only [read, form]
      | ok request =>
        have told := filter_renderNoting_overwriting request invocation.format invocation.options
        rcases noted : request.renderNoting invocation.format invocation.options with ⟨failure | content, lines⟩ <;>
          rw [noted] at told <;> simp only [read, noted, List.filter_append, form, told, List.append_nil]

section Places

variable (format : Format) (root : Place)

/-- The publications that replace a file: their places are taken before the first of them, or by
one before. -/
def replacing : (taken : Place → Bool) → List Publication → List Publication
  | _, [] => []
  | taken, publication :: others =>
    let here := publication.place format root
    let rest := replacing (fun place => place = here || taken place) others
    if taken here then publication :: rest else rest

def newPlaces (taken : Place → Bool) (done : List Publication) : Finset Place :=
  (done.map (Publication.place format root)).toFinset.filter fun place => taken place = false

/-- Each publication replaces a file, or is the first in a new place. -/
theorem length_replacing (taken : Place → Bool) (done : List Publication) :
    (replacing format root taken done).length + (newPlaces format root taken done).card = done.length := by
  induction done generalizing taken with
  | nil => rfl
  | cons publication others ih =>
    let here := publication.place format root
    have counted := ih fun place => place = here || taken place
    by_cases known : taken here = true
    · have same : (fun place => decide (place = here) || taken place) = taken := by
        funext place
        by_cases there : place = here <;> simp [there, known]
      have places : newPlaces format root taken (publication :: others) = newPlaces format root taken others := by
        rw [newPlaces, List.map_cons, List.toFinset_cons, Finset.filter_insert, if_neg (by simp [here, known])]
        rfl
      rw [same] at counted
      rw [replacing, if_pos known, places, List.length_cons, List.length_cons, same]
      omega
    · have places : newPlaces format root taken (publication :: others) =
          insert here (newPlaces format root (fun place => decide (place = here) || taken place) others) := by
        ext place
        simp only [newPlaces, List.map_cons, List.toFinset_cons, Finset.mem_filter, Finset.mem_insert]
        by_cases there : place = here <;> simp [there, known, here]
      have new : here ∉ newPlaces format root (fun place => decide (place = here) || taken place) others := by
        simp [newPlaces]
      rw [replacing, if_neg known, places, Finset.card_insert_of_notMem new, List.length_cons]
      exact congrArg Nat.succ counted

theorem replacing_congr {taken taken' : Place → Bool} {done : List Publication}
    (same : ∀ publication ∈ done, taken (publication.place format root) = taken' (publication.place format root)) :
    replacing format root taken done = replacing format root taken' done := by
  induction done generalizing taken taken' with
  | nil => rfl
  | cons publication others ih =>
    obtain ⟨here, behind⟩ := List.forall_mem_cons.mp same
    have rest := @ih (fun place => place = publication.place format root || taken place)
      (fun place => place = publication.place format root || taken' place)
      fun other inside => congrArg _ (behind other inside)
    rw [replacing, replacing, here, rest]

end Places

section File

variable {invocation : Invocation} {directory path : Path} {root : Place} {session next : Session}

theorem filter_documentFile_log (invocation : Invocation) (directory : Path) {bytes : ByteArray} {request : Request}
    (read : session.workspace.read path = .ok bytes) (describes : Describes bytes request) :
    (invocation.documentFile directory path session).2.log.filter Event.isOverwriting =
      session.log.filter Event.isOverwriting ++
        if session.workspace.contains (directory.join (request.fileName invocation.format)) then
          [overwritingEvent (directory.join (request.fileName invocation.format))]
        else [] := by
  have complete := describes.documentOf_eq (request.render_eq invocation.format invocation.options) (.file path)
  have silent := filter_documentOf_log invocation (.file path) bytes
  rcases document : invocation.documentOf (.file path) bytes with ⟨result, told⟩
  rw [document] at complete silent
  obtain rfl : result = .ok _ := complete
  have overwriting (output : Path) : (overwritingEvent output).isOverwriting = true := rfl
  have wrote (output : Path) : (wroteEvent path output).isOverwriting = false := rfl
  simp only [Invocation.documentFile, read, document]
  split
  all_goals
    simp only [Session.note]
    split
    all_goals simp [*, List.filter_append]

/-- One file is published in its place, with a warning if something was there. -/
theorem documentFile_replaces (leads : session.workspace.Leads directory root)
    (taken : invocation.documentFile directory path session = (.ok (), next)) :
    ∃ publication : Publication, publication.source = path ∧ publication.IsCurrent invocation session.workspace ∧
      session.workspace.obstacle? directory root (publication.name invocation.format) = none ∧
      next.workspace.home = session.workspace.home ∧
      next.workspace.tree.holds? = Function.update session.workspace.tree.holds?
        (publication.place invocation.format root) (some (.file publication.content)) ∧
      next.workspace.Leads directory root ∧
      next.log.filter Event.isOverwriting = session.log.filter Event.isOverwriting ++
        if (session.workspace.tree.holds? (publication.place invocation.format root)).isSome then
          [overwritingEvent (directory.join (publication.name invocation.format))]
        else [] := by
  have outcome := documentFile_cases invocation path leads
  rw [taken] at outcome
  rcases outcome with ⟨publication, rfl, current, free, -, put⟩ | ⟨error, _, _, -, -, -, failed, -⟩
  · obtain ⟨bytes, read, describes⟩ := current.1
    have log := filter_documentFile_log invocation directory read describes
    obtain ⟨home, held, there⟩ := leads.put_file free publication.content
    have put : next.workspace = _ := put
    rw [← put] at home held there
    rw [taken, Workspace.contains_join leads (Request.isPlain_fileName _ _) free] at log
    exact ⟨publication, rfl, current, free, home, held, there, log⟩
  · cases failed

theorem documentFiles_replace {files : List Path} (leads : session.workspace.Leads directory root)
    (succeeds : Succeeds (invocation.documentFile directory) files session next) :
    ∃ done, files = done.map Publication.source ∧
      Publishes invocation directory root done session.workspace next.workspace ∧
      next.log.filter Event.isOverwriting = session.log.filter Event.isOverwriting ++
        (replacing invocation.format root (fun place => (session.workspace.tree.holds? place).isSome) done).map
          fun publication => overwritingEvent (directory.join (publication.name invocation.format)) := by
  induction succeeds with
  | nil => exact ⟨[], rfl, .nil _, (List.append_nil _).symm⟩
  | @cons path files session next last taken _ ih =>
    obtain ⟨publication, rfl, current, free, home, held, there, log⟩ := documentFile_replaces leads taken
    obtain ⟨done, rfl, publishes, logs⟩ := ih there
    refine ⟨publication :: done, rfl, .cons current free home held publishes, ?_⟩
    -- From here on the place of this publication is taken as well.
    have places : (fun place => (next.workspace.tree.holds? place).isSome) = fun place =>
        place = publication.place invocation.format root || (session.workspace.tree.holds? place).isSome := by
      funext place
      rw [held, Function.update_apply]
      split <;> simp [*]
    rw [logs, log, places, replacing, List.append_assoc]
    split <;> rfl

end File

namespace Publishes

variable {invocation : Invocation} {directory : Path} {root : Place} {done earlier later : List Publication}
  {publication : Publication} {before after : Workspace}

theorem not_directory (publishes : Publishes invocation directory root done before after)
    (inside : publication ∈ done) :
    before.tree.holds? (publication.place invocation.format root) ≠ some .directory := by
  intro directory
  obtain ⟨last, -, document⟩ := publishes.holds_document inside
  rw [publishes.outlasts.directories _ directory] at document
  cases document

theorem untouched {place : Place} (publishes : Publishes invocation directory root done before after)
    (elsewhere : ∀ publication ∈ done, publication.place invocation.format root ≠ place) :
    after.tree.holds? place = before.tree.holds? place := by
  by_contra different
  obtain ⟨publication, inside, here, -⟩ := publishes.changed different
  exact elsewhere publication inside here

theorem holds_last (publishes : Publishes invocation directory root (earlier ++ publication :: later) before after)
    (last : ∀ other ∈ later, other.place invocation.format root ≠ publication.place invocation.format root) :
    after.tree.holds? (publication.place invocation.format root) = some (.file publication.content) := by
  induction earlier generalizing before with
  | nil =>
    cases publishes with
    | cons _ _ _ held rest => rw [rest.untouched last, held, Function.update_self]
  | cons first earlier ih =>
    cases publishes with
    | cons _ _ _ _ rest => exact ih rest

end Publishes

theorem admits_overwriting (verbose : Bool) (event : Event) (overwriting : event.isOverwriting = true) :
    (logFilter none verbose).admits event = true := by
  have filter : logFilter none verbose = .upTo (if verbose then .debug else .warn) := rfl
  rw [Event.isOverwriting, Bool.and_eq_true, decide_eq_true_iff] at overwriting
  rw [filter, Log.Filter.admits_upTo, overwriting.1]
  cases verbose <;> rfl

/-- A run on files that ends well has warned once of every document that replaces a file, by the path
of that file. So there are as many warnings as inputs, less the places that nothing was in before
the run. In the end every place has the document of the last input that comes to it. -/
theorem run_warns_of_replacements {arguments : List String} {invocation : Invocation} {workspace : Workspace}
    (input : ByteArray) (home : workspace.HasHome)
    (understood : Invocation.ofArguments arguments = .ok invocation) (given : invocation.files ≠ [])
    (well : (run arguments none input workspace).exitCode = 0) :
    let outcome := run arguments none input workspace
    let warnings := outcome.log.filter Event.isOverwriting
    let taken place := (workspace.tree.holds? place).isSome
    ∃ text made selection root done, invocation.output = some text ∧
      workspace.createDirectories ⟨text⟩ = (.ok (), made) ∧
      Selection.ofArguments made invocation.files = (.ok (), selection) ∧ made.Leads ⟨text⟩ root ∧
      selection.files = done.map Publication.source ∧
      Publishes invocation ⟨text⟩ root done made outcome.workspace ∧
      warnings = (replacing invocation.format root taken done).map
        (fun publication => overwritingEvent (Path.join ⟨text⟩ (publication.name invocation.format))) ∧
      warnings.length + (newPlaces invocation.format root taken done).card = selection.files.length ∧
      ∀ earlier publication later, done = earlier ++ publication :: later →
        (∀ other ∈ later, other.place invocation.format root ≠ publication.place invocation.format root) →
        outcome.workspace.tree.holds? (publication.place invocation.format root) = some (.file publication.content) ∧
          ∃ reached, Publishes invocation ⟨text⟩ root earlier made reached ∧
            publication.IsCurrent invocation reached := by
  intro outcome warnings taken
  obtain ⟨text, made, selection, output, created, selected⟩ := prepared_of_exitCode understood given well
  obtain ⟨grows, root, leads⟩ := Workspace.createDirectories_ok home created
  let session : Session := { workspace := made, log := selection.log }
  have there : session.workspace.Leads ⟨text⟩ root := leads
  have unfolded : outcome = _ := run_files none input understood given output created selected
  rcases ran : eachStep (invocation.documentFile ⟨text⟩) selection.files session with ⟨result, after⟩
  simp only [session] at ran
  rw [ran] at unfolded
  obtain rfl : result = .ok () := by
    have well : outcome.exitCode = 0 := well
    rw [unfolded] at well
    cases result with
    | ok => rfl
    | error => cases well
  obtain ⟨done, all, publishes, logs⟩ := documentFiles_replace there (succeeds_of_eachStep ran)
  have left : outcome.workspace = after.workspace := by rw [unfolded]; rfl
  have publishes : Publishes invocation ⟨text⟩ root done made outcome.workspace := left ▸ publishes
  -- What was made for the run is directories, and no document takes the place of one.
  have places : replacing invocation.format root (fun place => (made.tree.holds? place).isSome) done =
      replacing invocation.format root taken done := by
    refine replacing_congr _ _ fun publication inside => ?_
    rcases grows.held (publication.place invocation.format root) with same | ⟨-, new⟩
    · rw [same]
    · exact absurd new (publishes.not_directory inside)
  have told : warnings = (replacing invocation.format root taken done).map
      fun publication => overwritingEvent (Path.join ⟨text⟩ (publication.name invocation.format)) := by
    simp only [warnings, unfolded]
    rw [filter_shown (admits_overwriting invocation.verbose), ofSession_log, logs,
      Selection.filter_log (fun _ => rfl) selected, List.nil_append]
    exact congrArg _ places
  refine ⟨text, made, selection, root, done, output, created, selected, leads, all, publishes, told, ?_, ?_⟩
  · rw [told, List.length_map, length_replacing, all, List.length_map]
  · rintro earlier publication later rfl last
    exact ⟨publishes.holds_last last, publishes.split⟩

/-- Two snapshots whose documents have one name, and a snapshot whose document is there already. -/
def colliding : Workspace where
  tree := .directory [("w", .directory
    [("a.json", .file "\x7b\"className\":\"A$\",\"type\":\"REPORTING_TASK\"\x7d".toUTF8),
      ("b.json", .file "\x7b\"className\":\"A_\",\"type\":\"REPORTING_TASK\"\x7d".toUTF8),
      ("c.json", .file "\x7b\"className\":\"C\",\"type\":\"REPORTING_TASK\"\x7d".toUTF8),
      ("out", .directory [("C.xml", .file .empty)])])]
  home := ["w"]

/-- Of three documents one is in a new place, and the others are warned of. -/
theorem run_warns_of_replacements_twice :
    let outcome := run ["-o", "out", "a.json", "b.json", "c.json"] none .empty colliding
    outcome.exitCode = 0 ∧
      outcome.log.filter Event.isOverwriting = [overwritingEvent ⟨"out/A_.xml"⟩, overwritingEvent ⟨"out/C.xml"⟩] ∧
      ∃ root done, done.map Publication.source = [⟨"a.json"⟩, ⟨"b.json"⟩, ⟨"c.json"⟩] ∧
        (newPlaces .xml root (fun place => (colliding.tree.holds? place).isSome) done).card = 1 := by
  intro outcome
  obtain ⟨well, warnings⟩ : outcome.exitCode = 0 ∧ outcome.log.filter Event.isOverwriting =
      [overwritingEvent ⟨"out/A_.xml"⟩, overwritingEvent ⟨"out/C.xml"⟩] := by
    decide +kernel
  obtain ⟨text, made, selection, root, done, output, created, selected, -, all, -, -, counted, -⟩ :=
    @run_warns_of_replacements ["-o", "out", "a.json", "b.json", "c.json"]
      { files := ["a.json", "b.json", "c.json"], output := some "out" } colliding .empty rfl rfl nofun well
  cases output
  cases created
  cases selected
  have all : [⟨"a.json"⟩, ⟨"b.json"⟩, ⟨"c.json"⟩] = done.map Publication.source := all
  refine ⟨well, warnings, root, done, all.symm, ?_⟩
  have counted : (outcome.log.filter Event.isOverwriting).length +
      (newPlaces .xml root (fun place => (colliding.tree.holds? place).isSome) done).card = 3 := counted
  rw [warnings] at counted
  exact Nat.add_left_cancel counted

end Command

end ComponentDocs
