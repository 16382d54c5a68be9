import ComponentDocs.Proofs.Command.Modes
import ComponentDocs.Proofs.Document.Told

/-! What a run tells its log about the documents that it makes: in which order their steps stand
there, and which properties without a known service they name. -/
namespace ComponentDocs

open Log (Event)
open FileTree (Place)

namespace Log

theorem Filter.admits_upTo (level : Level) (event : Event) :
    (Filter.upTo level).admits event = (Threshold.upTo level).admits event.level := by
  simp [upTo, admits, decisive?, Directive.concerns]

/-- A step on the way to a document. Lines of the program itself have its name as target. -/
def Event.isStep (event : Event) : Bool := event.level = .debug && event.target ≠ "extdoc"

theorem Event.level_of_isStep {event : Event} (step : event.isStep = true) : event.level = .debug := by
  rw [isStep, Bool.and_eq_true, decide_eq_true_iff] at step
  exact step.1

end Log

namespace Request

variable (format : Format) (request : Request)

def unresolved : List PropertyDescriptor :=
  request.component.properties.filter (PropertyDescriptor.fallsBack request.propertyServices)

/-- The steps of a document: between the first and the last, in XML alone, one for each property
that falls back. -/
def steps : List Event :=
  let inside := match format with
    | .xml => request.unresolved.map fun property => Log.fallBackEvent property.name
    | .json => []
  request.openingEvent :: (inside ++ [request.closingEvent])

/-- How many properties there are is told at a more detailed level than the steps. -/
theorem filter_told : (request.told format).filter Event.isStep =
    match format with
    | .xml => request.unresolved.map fun property => Log.fallBackEvent property.name
    | .json => [] := by
  cases format with
  | json => rfl
  | xml =>
    have steps (names : List PropertyDescriptor) :
        (names.map fun property => Log.fallBackEvent property.name).filter Event.isStep =
          names.map fun property => Log.fallBackEvent property.name := by
      rw [List.filter_eq_self]
      intro event there
      obtain ⟨property, -, rfl⟩ := List.mem_map.mp there
      rfl
    rw [told, unresolved]
    cases request.component.properties with
    | nil => rfl
    | cons first others =>
      rw [Section.told, List.filter_cons, steps]
      rfl

theorem filter_renderNoting (options : Options) :
    (request.renderNoting format options).2.filter Event.isStep = request.steps format := by
  have opening : request.openingEvent.isStep = true := rfl
  have closing : request.closingEvent.isStep = true := rfl
  rw [renderNoting_told, List.filter_cons, if_pos opening, List.filter_append, filter_told, List.filter_singleton,
    closing]
  rfl

end Request

namespace Command

variable {invocation : Invocation} {directory : Path} {root : Place}

/-- The log is told nothing of bytes that are refused, and the events of the document of bytes that
describe one, perhaps after a line on the form of the snapshot. -/
theorem Describes.documentOf_log {bytes : ByteArray} {request : Request} (describes : Describes bytes request)
    (invocation : Invocation) (source : Source) :
    ∃ form, form.filter Event.isStep = [] ∧
      (invocation.documentOf source bytes).2 =
        form ++ (request.renderNoting invocation.format invocation.options).2 := by
  obtain ⟨text, decoded, read⟩ := describes
  rw [Request.ofText] at read
  split at read
  · cases read
  · next json parsed =>
    refine ⟨if json.isWrapped then [] else [bareEvent], by split <;> rfl, ?_⟩
    rcases noted : request.renderNoting invocation.format invocation.options with ⟨failure | content, told⟩ <;>
      simp only [Invocation.documentOf, decoded, Invocation.documentOfText, parsed, read, noted]

theorem Refuses.documentOf_log {bytes : ByteArray} {failure : Source → RunError} {cause : String}
    (refuses : Refuses bytes failure cause) (invocation : Invocation) (source : Source) :
    (invocation.documentOf source bytes).2.filter Event.isStep = [] := by
  cases refuses with
  | notUnicode undecodable => simp only [Invocation.documentOf, undecodable, List.filter_nil]
  | unsuitable decoded refused =>
    rw [Request.ofText] at refused
    split at refused
    · next fault parsed =>
      simp only [Invocation.documentOf, decoded, Invocation.documentOfText, parsed, List.filter_nil]
    · next json parsed =>
      simp only [Invocation.documentOf, decoded, Invocation.documentOfText, parsed, refused]
      split <;> rfl

section File

variable (invocation) (directory) {path : Path} {bytes : ByteArray} (session : Session)

theorem documentFile_steps {request : Request} (read : session.workspace.read path = .ok bytes)
    (describes : Describes bytes request) :
    (invocation.documentFile directory path session).2.log.filter Event.isStep =
      session.log.filter Event.isStep ++ request.steps invocation.format := by
  obtain ⟨form, silent, log⟩ := describes.documentOf_log invocation (.file path)
  have complete := describes.documentOf_eq (request.render_eq invocation.format invocation.options) (.file path)
  rcases document : invocation.documentOf (.file path) bytes with ⟨result, told⟩
  rw [document] at log complete
  obtain rfl : told = _ := log
  obtain rfl : result = .ok _ := complete
  simp only [Invocation.documentFile, read, document]
  -- A line on what is overwritten, and one on what is written, are lines of the program.
  have overwriting (output : Path) : (overwritingEvent output).isStep = false := rfl
  have wrote (output : Path) : (wroteEvent path output).isStep = false := rfl
  split
  all_goals
    simp only [Session.note]
    split
    all_goals simp [silent, overwriting, wrote, Request.filter_renderNoting]

theorem documentFile_steps_refused (refused : ∀ bytes request, session.workspace.read path = .ok bytes →
      ¬ Describes bytes request) :
    (invocation.documentFile directory path session).2.log.filter Event.isStep =
      session.log.filter Event.isStep := by
  cases read : session.workspace.read path with
  | error error => simp only [Invocation.documentFile, read]
  | ok bytes =>
    rcases describes_or_refuses bytes with ⟨request, describes⟩ | ⟨failure, cause, refuses⟩
    · exact absurd describes (refused bytes request read)
    · have log := refuses.documentOf_log invocation (.file path)
      have failed := refuses.documentOf_eq invocation (.file path)
      rcases document : invocation.documentOf (.file path) bytes with ⟨result, told⟩
      rw [document] at log failed
      obtain rfl : result = .error _ := failed
      simp only [Invocation.documentFile, read, document, Session.note, List.filter_append, log, List.append_nil]

end File

/-- The requests of documents that are complete but not in place, once a run has come to the files
`rest`: the one of the first of them, if it describes one and only cannot be written. -/
inductive Unplaced (workspace : Workspace) : (rest : List Path) → List Request → Prop
  | done : Unplaced workspace [] []
  | refused {path : Path} (behind : List Path)
      (nothing : ∀ bytes request, workspace.read path = .ok bytes → ¬ Describes bytes request) :
      Unplaced workspace (path :: behind) []
  | unwritten {path : Path} {bytes : ByteArray} {request : Request} (behind : List Path)
      (read : workspace.read path = .ok bytes) (describes : Describes bytes request) :
      Unplaced workspace (path :: behind) [request]

/-- Files are published up to the first that fails, and the log has the steps of one document after
the other. -/
theorem documentFiles_steps (invocation : Invocation) (files : List Path) {session : Session}
    (leads : session.workspace.Leads directory root) :
    let outcome := eachStep (invocation.documentFile directory) files session
    ∃ done rest unplaced, files = done.map Publication.source ++ rest ∧
      Publishes invocation directory root done session.workspace outcome.2.workspace ∧
      Unplaced outcome.2.workspace rest unplaced ∧ (outcome.1 = .ok () ↔ rest = []) ∧
      outcome.2.log.filter Event.isStep = session.log.filter Event.isStep ++
        (done.map Publication.request ++ unplaced).flatMap (Request.steps invocation.format) := by
  induction files generalizing session with
  | nil => exact ⟨[], [], [], rfl, .nil _, .done, iff_of_true rfl rfl, by simp [eachStep]⟩
  | cons path files ih =>
    intro outcome
    have first := documentFile_cases invocation path leads
    have unfolded : outcome = eachStep (invocation.documentFile directory) (path :: files) session := rfl
    rcases taken : invocation.documentFile directory path session with ⟨result, next⟩
    rw [taken] at first
    rcases first with ⟨publication, rfl, current, free, ok, put⟩ |
      ⟨error, message, cause, fails, -, -, failed, same⟩
    · obtain rfl : result = .ok () := ok
      simp only [eachStep, taken] at unfolded
      have put : next.workspace = _ := put
      obtain ⟨home, held, there⟩ := leads.put_file free publication.content
      rw [← put] at home held there
      obtain ⟨bytes, read, describes⟩ := current.1
      have log := documentFile_steps invocation directory session read describes
      rw [taken] at log
      obtain ⟨done, rest, unplaced, parted, publishes, others, ends, logs⟩ := ih there
      rw [unfolded]
      refine ⟨publication :: done, rest, unplaced, ?_, .cons current free home held publishes, others, ends, ?_⟩
      · rw [parted, List.map_cons, List.cons_append]
      · rw [logs, log, List.map_cons, List.cons_append, List.flatMap_cons, List.append_assoc]
    · obtain rfl : result = .error error := failed
      simp only [eachStep, taken] at unfolded
      rw [unfolded]
      have same : next.workspace = session.workspace := same
      have ends : (.error error : Except RunError Unit) = .ok () ↔ path :: files = [] := by simp
      by_cases complete : ∃ bytes request, session.workspace.read path = .ok bytes ∧ Describes bytes request
      · obtain ⟨bytes, request, read, describes⟩ := complete
        have log := documentFile_steps invocation directory session read describes
        rw [taken] at log
        refine ⟨[], path :: files, [request], rfl, same ▸ .nil _, ?_, ends, ?_⟩
        · exact .unwritten files (by rwa [same]) describes
        · rw [log, List.map_nil, List.nil_append, List.flatMap_singleton]
      · have nothing (bytes : ByteArray) (request : Request) (read : session.workspace.read path = .ok bytes) :
            ¬ Describes bytes request := fun describes => complete ⟨bytes, request, read, describes⟩
        have log := documentFile_steps_refused invocation directory session nothing
        rw [taken] at log
        refine ⟨[], path :: files, [], rfl, same ▸ .nil _, ?_, ends, ?_⟩
        · exact .refused files (by rwa [same])
        · rw [log, List.map_nil, List.nil_append, List.flatMap_nil, List.append_nil]

section Selecting

variable {keeps : Event → Bool} (skips : ∀ argument, keeps (noMatchEvent argument) = false)

include skips

theorem Selection.filter_log_add (workspace : Workspace) (argument : String) (selection : Selection)
    (silent : selection.log.filter keeps = []) :
    (Selection.add workspace argument selection).2.log.filter keeps = [] := by
  rw [Selection.add]
  split
  · exact silent
  · split
    · exact silent
    · split
      · exact silent
      · split
        · simp [silent, skips]
        · exact silent

theorem Selection.filter_log {workspace : Workspace} {arguments : List String} {selection : Selection}
    (selected : Selection.ofArguments workspace arguments = (.ok (), selection)) :
    selection.log.filter keeps = [] := by
  have start : ({} : Selection).log.filter keeps = [] := rfl
  have kept := eachStep_keeps _ (filter_log_add skips workspace) arguments start
  rw [Selection.ofArguments] at selected
  rwa [selected] at kept

end Selecting

theorem ofSession_log (result : Except RunError ByteArray) (session : Session) :
    (Outcome.ofSession result session).log = session.log := by
  cases result <;> rfl

theorem filter_shown {filter : Log.Filter} {keeps : Event → Bool}
    (shown : ∀ event, keeps event = true → filter.admits event = true) (log : List Event) :
    (log.filter filter.admits).filter keeps = log.filter keeps := by
  rw [List.filter_filter]
  refine List.filter_congr fun event _ => ?_
  cases kept : keeps event with
  | false => rfl
  | true => exact (Bool.true_and _).trans (shown event kept)

section Run

variable {arguments : List String} (filterText : Option String) (input : ByteArray) (workspace : Workspace)

theorem run_piped_steps (understood : Invocation.ofArguments arguments = .ok invocation)
    (shown : ∀ event : Event, event.level = .debug →
      (logFilter filterText invocation.verbose).admits event = true) (alone : invocation.files = []) :
    let told := (run arguments filterText input workspace).log.filter Event.isStep
    (∃ request, Describes input request ∧ told = request.steps invocation.format) ∨
      ∃ failure cause, Refuses input failure cause ∧ told = [] := by
  intro told
  have told_eq : told = (invocation.documentOf .standardInput input).2.filter Event.isStep := by
    simp only [told, run_piped filterText input workspace understood alone,
      filter_shown fun event step => shown event (Event.level_of_isStep step), ofSession_log]
  rcases describes_or_refuses input with ⟨request, describes⟩ | ⟨failure, cause, refuses⟩
  · obtain ⟨form, silent, log⟩ := describes.documentOf_log invocation .standardInput
    refine .inl ⟨request, describes, ?_⟩
    rw [told_eq, log, List.filter_append, silent, List.nil_append, Request.filter_renderNoting]
  · exact .inr ⟨failure, cause, refuses, told_eq.trans (refuses.documentOf_log invocation .standardInput)⟩

variable {text : String} {made : Workspace} {selection : Selection}

theorem run_files_steps (understood : Invocation.ofArguments arguments = .ok invocation)
    (shown : ∀ event : Event, event.level = .debug →
      (logFilter filterText invocation.verbose).admits event = true)
    (home : workspace.HasHome) (given : invocation.files ≠ []) (output : invocation.output = some text)
    (created : workspace.createDirectories ⟨text⟩ = (.ok (), made))
    (selected : Selection.ofArguments made invocation.files = (.ok (), selection)) :
    let outcome := run arguments filterText input workspace
    ∃ root done rest unplaced, made.Leads ⟨text⟩ root ∧ selection.files = done.map Publication.source ++ rest ∧
      Publishes invocation ⟨text⟩ root done made outcome.workspace ∧
      Unplaced outcome.workspace rest unplaced ∧ (outcome.exitCode = 0 ↔ rest = []) ∧
      outcome.log.filter Event.isStep =
        (done.map Publication.request ++ unplaced).flatMap (Request.steps invocation.format) := by
  intro outcome
  obtain ⟨-, root, leads⟩ := Workspace.createDirectories_ok home created
  let session : Session := { workspace := made, log := selection.log }
  have leads' : session.workspace.Leads ⟨text⟩ root := leads
  obtain ⟨done, rest, unplaced, parted, publishes, others, ends, logs⟩ :=
    documentFiles_steps invocation selection.files leads'
  have ran := run_files filterText input understood given output created selected
  rcases reached : eachStep (invocation.documentFile ⟨text⟩) selection.files session with ⟨result, after⟩
  rw [reached] at publishes others ends logs
  have outcome_eq : outcome = _ := ran
  simp only [session] at reached
  rw [reached] at outcome_eq
  have workspace_eq : outcome.workspace = after.workspace := by
    rw [outcome_eq]
    cases result <;> rfl
  have exitCode : outcome.exitCode = 0 ↔ result = .ok () := by
    rw [outcome_eq]
    cases result <;> simp [Outcome.ofSession, Except.map]
  have told_eq : outcome.log.filter Event.isStep = after.log.filter Event.isStep := by
    simp only [outcome_eq, filter_shown fun event step => shown event (Event.level_of_isStep step), ofSession_log]
  rw [told_eq, workspace_eq, exitCode]
  refine ⟨root, done, rest, unplaced, leads, parted, publishes, others, ends, logs.trans ?_⟩
  rw [Selection.filter_log (fun _ => rfl) selected, List.nil_append]

end Run

/-- In the log of a run that shows all steps, each document has its own, those of one document after
those of another: the documents are all that are complete, in the order in which they are made. So
the fall-backs of XML documents are there, between the first and the last step of the document and in
the order of the properties, and nothing is said of those of JSON documents. Both documents of a
request have placeholders for just the properties that fall back, and for the others what their
names resolve to. -/
theorem run_logs_steps {arguments : List String} {invocation : Invocation} (filterText : Option String)
    (input : ByteArray) (workspace : Workspace) (understood : Invocation.ofArguments arguments = .ok invocation)
    (shown : ∀ event : Event, event.level = .debug →
      (logFilter filterText invocation.verbose).admits event = true) :
    let outcome := run arguments filterText input workspace
    let told := outcome.log.filter Event.isStep
    (invocation.files = [] →
      (∃ request, Describes input request ∧ told = request.steps invocation.format) ∨
        ∃ failure cause, Refuses input failure cause ∧ told = []) ∧
    (∀ text made selection, workspace.HasHome → invocation.files ≠ [] → invocation.output = some text →
      workspace.createDirectories ⟨text⟩ = (.ok (), made) →
      Selection.ofArguments made invocation.files = (.ok (), selection) →
      ∃ root done rest unplaced, made.Leads ⟨text⟩ root ∧
        selection.files = done.map Publication.source ++ rest ∧
        Publishes invocation ⟨text⟩ root done made outcome.workspace ∧
        Unplaced outcome.workspace rest unplaced ∧ (outcome.exitCode = 0 ↔ rest = []) ∧
        told = (done.map Publication.request ++ unplaced).flatMap (Request.steps invocation.format)) ∧
    ∀ (request : Request) options, ∃ json document xml root,
      request.render .json options = .ok (Sink.bytesOf json) ∧
      Json.parse (String.ofList json) = .ok document ∧
      request.render .xml options = .ok (Sink.bytesOf (Request.prologue options ++ xml)) ∧
      Markup.read xml = some (false, root) ∧
      document.references = request.component.properties.map (fun property =>
        ([.string property.name], (property.coordinates request.propertyServices).map .string)) ∧
      root.references = request.component.properties.map (fun property =>
        ([Markup.Node.leaf "name" property.name],
          List.zipWith Markup.Node.leaf ServiceApi.keys (property.coordinates request.propertyServices))) := by
  intro outcome told
  refine ⟨run_piped_steps filterText input workspace understood shown, ?_, fun request options => ?_⟩
  · intro text made selection home given output created selected
    exact run_files_steps filterText input workspace understood shown home given output created selected
  · obtain ⟨json, xml, rendered, parsed, written, read⟩ := request.documents_read options
    exact ⟨json, _, xml, _, rendered, parsed, written, read, request.references_json,
      request.references_xml options⟩

/-- A component with a property that names a service, and a property that names none. -/
def referencing : String :=
  "\x7b\"className\":\"S\",\"type\":\"REPORTING_TASK\",\"properties\":" ++
    "[\x7b\"name\":\"p\",\"controllerServiceDefinition\":\"Api\"\x7d,\x7b\"name\":\"q\"\x7d]\x7d"

theorem describes_referencing (request : Request) (describes : Describes referencing.toUTF8 request) :
    request.unresolved.map PropertyDescriptor.name = ["p"] ∧
      (request.component.properties.map fun property =>
        (property.name, property.coordinates request.propertyServices)) =
        [("p", ["Api", "unknown", "unknown", "unknown"]), ("q", [])] := by
  obtain ⟨text, decoded, read⟩ := describes
  have known : ((String.fromUTF8? referencing.toUTF8).bind fun text =>
      (Request.ofText text).toOption.map fun request =>
        (request.unresolved.map PropertyDescriptor.name,
          request.component.properties.map fun property =>
            (property.name, property.coordinates request.propertyServices))) =
      some (["p"], [("p", ["Api", "unknown", "unknown", "unknown"]), ("q", [])]) := by
    decide +kernel
  rw [decoded, Option.bind_some, read] at known
  exact Prod.mk.inj (Option.some.inj known)

/-- A verbose run that writes XML logs the one fall-back of the component. -/
theorem run_logs_steps_of_reference :
    let outcome := run ["-v"] none referencing.toUTF8 (twoFiles [])
    ∃ request : Request, request.unresolved.map PropertyDescriptor.name = ["p"] ∧
      outcome.log.filter Event.isStep = request.steps .xml := by
  intro outcome
  have shown (event : Event) (level : event.level = .debug) :
      (logFilter none true).admits event = true := by
    have filter : logFilter none true = .upTo .debug := rfl
    rw [filter, Log.Filter.admits_upTo, level]
    rfl
  obtain ⟨fromInput, -⟩ :=
    @run_logs_steps ["-v"] { verbose := true } none referencing.toUTF8 (twoFiles []) rfl shown
  have told : (outcome.log.filter Event.isStep).length = 3 := by decide +kernel
  rcases fromInput rfl with ⟨request, describes, steps⟩ | ⟨_, _, _, silent⟩
  · exact ⟨request, (describes_referencing request describes).1, steps⟩
  · rw [silent] at told
    cases told

/-- A verbose run that writes JSON shows the same fall-back in the document, but not in the log. -/
theorem json_run_silent_on_reference :
    let outcome := run ["-v", "-f", "json"] none referencing.toUTF8 (twoFiles [])
    outcome.exitCode = 0 ∧
      (∃ request json document, Describes referencing.toUTF8 request ∧
        request.unresolved.map PropertyDescriptor.name = ["p"] ∧ outcome.output = Sink.bytesOf json ∧
        Json.parse (String.ofList json) = .ok document ∧
        document.references = [([.string "p"], ["Api", "unknown", "unknown", "unknown"].map .string),
          ([.string "q"], [])]) ∧
      ∀ event ∈ outcome.log, event.message ≠ "no service API resolved, using placeholder coordinates" := by
  intro outcome
  have computed : outcome.exitCode = 0 ∧
      ∀ event ∈ outcome.log, event.message ≠ "no service API resolved, using placeholder coordinates" := by
    decide +kernel
  refine ⟨computed.1, ?_, computed.2⟩
  let invocation : Invocation := { format := .json, verbose := true }
  have understood : Invocation.ofArguments ["-v", "-f", "json"] = .ok invocation := rfl
  rcases describes_or_refuses referencing.toUTF8 with ⟨request, describes⟩ | ⟨failure, cause, refuses⟩
  · obtain ⟨unresolved, properties⟩ := describes_referencing request describes
    obtain ⟨json, _, rendered, parsed, -⟩ := request.documents_read invocation.options
    have written := run_piped_rendered none (twoFiles []) understood rfl
      (describes.documentOf_eq rendered .standardInput)
    refine ⟨request, json, _, describes, unresolved, written.2.1, parsed, ?_⟩
    calc
      request.content.json.references = (request.component.properties.map fun property =>
          (property.name, property.coordinates request.propertyServices)).map fun (name, coordinates) =>
            ([.string name], coordinates.map .string) := by rw [request.references_json, List.map_map]; rfl
      _ = _ := by rw [properties]; rfl
  · have failed := run_piped_refused none (twoFiles []) understood rfl (refuses.documentOf_eq _ .standardInput)
    exact absurd (failed.1.symm.trans computed.1) (by decide)

end Command

end ComponentDocs
