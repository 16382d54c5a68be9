import ComponentDocs.Proofs.Command.Publication

/-! Two ways to one document: a snapshot that is piped in, and a snapshot in a file. Both come to
the same bytes, or fail for the same reason. -/
namespace ComponentDocs.Command

open FileTree (Place)

/-- Why no request comes of some bytes: the failure, for every source that the bytes may have, and
what is behind it. -/
inductive Refuses (bytes : ByteArray) : (failure : Source → RunError) → (cause : String) → Prop
  | notUnicode (undecodable : String.fromUTF8? bytes = none) :
      Refuses bytes (fun source => .unreadable source .notUnicode) "stream did not contain valid UTF-8"
  | unsuitable {text : String} {error : Snapshot.ReadError} (decoded : String.fromUTF8? bytes = some text)
      (refused : Request.ofText text = .error error) :
      Refuses bytes (fun source => .unsuitable source error) error.message

namespace Refuses

variable {bytes : ByteArray} {failure : Source → RunError} {cause : String}

theorem causes_eq (refuses : Refuses bytes failure cause) (source : Source) : (failure source).causes = [cause] := by
  cases refuses <;> rfl

/-- A refusal does not depend on the source, nor on what is asked for. -/
theorem documentOf_eq (refuses : Refuses bytes failure cause) (invocation : Invocation) (source : Source) :
    (invocation.documentOf source bytes).1 = .error (failure source) := by
  cases refuses with
  | notUnicode undecodable => simp only [Invocation.documentOf, undecodable]
  | unsuitable decoded refused =>
    rw [Request.ofText] at refused
    split at refused
    · next fault parsed =>
      cases refused
      simp only [Invocation.documentOf, decoded, Invocation.documentOfText, parsed]
    · next json parsed =>
      simp only [Invocation.documentOf, decoded, Invocation.documentOfText, parsed, refused]

end Refuses

theorem describes_or_refuses (bytes : ByteArray) :
    (∃ request, Describes bytes request) ∨ ∃ failure cause, Refuses bytes failure cause := by
  cases decoded : String.fromUTF8? bytes with
  | none => exact .inr ⟨_, _, .notUnicode decoded⟩
  | some text =>
    cases read : Request.ofText text with
    | error error => exact .inr ⟨_, _, .unsuitable decoded read⟩
    | ok request => exact .inl ⟨request, text, decoded, read⟩

theorem Describes.documentOf_eq {bytes : ByteArray} {request : Request} (describes : Describes bytes request)
    {invocation : Invocation} {content : ByteArray}
    (rendered : request.render invocation.format invocation.options = .ok content) (source : Source) :
    (invocation.documentOf source bytes).1 = .ok ⟨request.fileName invocation.format, content⟩ := by
  obtain ⟨text, decoded, read⟩ := describes
  rw [Request.ofText] at read
  split at read
  · cases read
  · next json parsed =>
    rcases noted : request.renderNoting invocation.format invocation.options with ⟨result, told⟩
    rw [Request.render, noted] at rendered
    obtain rfl : result = .ok content := rendered
    simp only [Invocation.documentOf, decoded, Invocation.documentOfText, parsed, read, noted]

theorem run_piped {arguments : List String} {invocation : Invocation} (filterText : Option String)
    (input : ByteArray) (workspace : Workspace) (understood : Invocation.ofArguments arguments = .ok invocation)
    (alone : invocation.files = []) :
    let document := invocation.documentOf .standardInput input
    let outcome := Outcome.ofSession (document.1.map Rendered.content) { workspace, log := document.2 }
    run arguments filterText input workspace =
      { outcome with log := outcome.log.filter (logFilter filterText invocation.verbose).admits } := by
  simp only [run, understood, Invocation.perform, alone, List.isEmpty_nil, if_true]

section Two

variable {arguments : List String} {invocation : Invocation} {bytes : ByteArray} (filterText : Option String)
  (workspace : Workspace)

theorem run_piped_rendered (understood : Invocation.ofArguments arguments = .ok invocation)
    (alone : invocation.files = []) {document : Rendered}
    (rendered : (invocation.documentOf .standardInput bytes).1 = .ok document) :
    let outcome := run arguments filterText bytes workspace
    outcome.exitCode = 0 ∧ outcome.output = document.content ∧ outcome.workspace = workspace := by
  rw [run_piped filterText bytes workspace understood alone, rendered]
  exact ⟨rfl, rfl, rfl⟩

theorem run_piped_refused (understood : Invocation.ofArguments arguments = .ok invocation)
    (alone : invocation.files = []) {error : RunError}
    (refused : (invocation.documentOf .standardInput bytes).1 = .error error) :
    let outcome := run arguments filterText bytes workspace
    outcome.exitCode = 1 ∧ outcome.output = .empty ∧ outcome.report = error.report ∧
      outcome.workspace = workspace := by
  rw [run_piped filterText bytes workspace understood alone, refused]
  exact ⟨rfl, rfl, rfl, rfl⟩

variable {text : String} {made : Workspace} {selection : Selection} {path : Path}

theorem run_single (input : ByteArray) (understood : Invocation.ofArguments arguments = .ok invocation)
    (given : invocation.files ≠ []) (output : invocation.output = some text)
    (created : workspace.createDirectories ⟨text⟩ = (.ok (), made))
    (selected : Selection.ofArguments made invocation.files = (.ok (), selection))
    (single : selection.files = [path]) :
    let taken := invocation.documentFile ⟨text⟩ path { workspace := made, log := selection.log }
    let outcome := run arguments filterText input workspace
    outcome.output = .empty ∧ outcome.workspace = taken.2.workspace ∧
      (taken.1 = .ok () → outcome.exitCode = 0) ∧
      ∀ error, taken.1 = .error error → outcome.exitCode = 1 ∧ outcome.report = error.report := by
  intro taken outcome
  have ran : eachStep (invocation.documentFile ⟨text⟩) selection.files { workspace := made, log := selection.log } =
      taken := by
    rw [single, eachStep_singleton]
  have unfolded : outcome = _ := run_files filterText input understood given output created selected
  rw [ran] at unfolded
  rw [unfolded]
  rcases taken with ⟨error | ⟨⟩, session⟩
  · refine ⟨rfl, rfl, nofun, ?_⟩
    rintro _ ⟨⟩
    exact ⟨rfl, rfl⟩
  · exact ⟨rfl, rfl, fun _ => rfl, nofun⟩

end Two

/-- One snapshot is piped in, and is the one file of another run, with the same format and options.
Both runs end well or neither does. If they do, both come to the document of the request that the
bytes describe: one writes it out, and the other into its file. If not, nothing is written and no
file is different, and the reports name different sources but the same cause. -/
theorem run_alike_on_input_and_file {pipedArguments fileArguments : List String} {piped named : Invocation}
    {text : String} {workspace made : Workspace} {selection : Selection} {path : Path} {bytes : ByteArray}
    (filterText filterText' : Option String) (input : ByteArray) (elsewhere : Workspace)
    (understood : Invocation.ofArguments pipedArguments = .ok piped) (alone : piped.files = [])
    (understood' : Invocation.ofArguments fileArguments = .ok named) (given : named.files ≠ [])
    (format : named.format = piped.format) (options : named.options = piped.options)
    (home : workspace.HasHome) (output : named.output = some text)
    (created : workspace.createDirectories ⟨text⟩ = (.ok (), made))
    (selected : Selection.ofArguments made named.files = (.ok (), selection)) (single : selection.files = [path])
    (holds : made.read path = .ok bytes)
    (writable : ∀ request content, Describes bytes request →
      request.render piped.format piped.options = .ok content →
      (made.write (Path.join ⟨text⟩ (request.fileName piped.format)) content).1 = .ok ()) :
    let fromInput := run pipedArguments filterText bytes elsewhere
    let fromFile := run fileArguments filterText' input workspace
    (fromInput.exitCode = 0 ↔ fromFile.exitCode = 0) ∧
      fromInput.workspace = elsewhere ∧ fromFile.output = .empty ∧
      (fromInput.exitCode = 0 → ∃ request content root, Describes bytes request ∧
        request.render piped.format piped.options = .ok content ∧ fromInput.output = content ∧
        made.Leads ⟨text⟩ root ∧
        fromFile.workspace.tree.holds? = Function.update made.tree.holds?
          (root ++ [request.fileName piped.format]) (some (.file content))) ∧
      (fromInput.exitCode ≠ 0 → fromInput.output = .empty ∧ fromFile.workspace = made ∧ workspace.Grows made ∧
        ∃ failure cause, Refuses bytes failure cause ∧
          fromInput.report = "Error: " ++ (failure .standardInput).message ++ "\n\nCaused by:\n" ++
            RunError.indented cause ++ "\n" ∧
          fromFile.report = "Error: " ++ (failure (.file path)).message ++ "\n\nCaused by:\n" ++
            RunError.indented cause ++ "\n") := by
  intro fromInput fromFile
  obtain ⟨grows, root, leads⟩ := Workspace.createDirectories_ok home created
  obtain ⟨silent, left, succeeds, fails⟩ :=
    run_single filterText' workspace input understood' given output created selected single
  let session : Session := { workspace := made, log := selection.log }
  have leads' : session.workspace.Leads ⟨text⟩ root := leads
  have holds' : session.workspace.read path = .ok bytes := holds
  rcases describes_or_refuses bytes with ⟨request, describes⟩ | ⟨failure, cause, refuses⟩
  · have rendered := request.render_eq piped.format piped.options
    obtain ⟨exitCode, written, untouched⟩ :=
      run_piped_rendered filterText elsewhere understood alone (describes.documentOf_eq rendered .standardInput)
    have free : made.obstacle? ⟨text⟩ root (request.fileName piped.format) = none :=
      Workspace.obstacle?_of_write leads (request.isPlain_fileName piped.format) (writable request _ describes rendered)
    have rendered' := request.render_eq named.format named.options
    have filed := documentFile_rendered leads' holds' (describes.documentOf_eq rendered' (.file path))
      (request.isPlain_fileName named.format)
    rw [format, options] at filed
    have free' : session.workspace.obstacle? ⟨text⟩ root (request.fileName piped.format) = none := free
    simp only [free'] at filed
    have exitCode' : fromFile.exitCode = 0 := succeeds filed.1
    refine ⟨iff_of_true exitCode exitCode', untouched, silent, fun _ => ?_, fun failed => absurd exitCode failed⟩
    refine ⟨request, _, root, describes, rendered, written, leads, ?_⟩
    rw [left, filed.2]
    exact Workspace.holds?_put_file leads free _
  · obtain ⟨exitCode, silent', report, untouched⟩ :=
      run_piped_refused filterText elsewhere understood alone (refuses.documentOf_eq piped .standardInput)
    obtain ⟨refused, same⟩ : (named.documentFile ⟨text⟩ path session).1 = .error (failure (.file path)) ∧
        (named.documentFile ⟨text⟩ path session).2.workspace = made :=
      documentFile_refused holds' (refuses.documentOf_eq named (.file path))
    obtain ⟨exitCode', report'⟩ := fails _ refused
    have stopped : fromInput.exitCode ≠ 0 := by
      rw [exitCode]
      decide
    have stopped' : fromFile.exitCode ≠ 0 := by
      rw [exitCode']
      decide
    refine ⟨iff_of_false stopped stopped', untouched, silent, fun succeeded => absurd succeeded stopped, fun _ => ?_⟩
    refine ⟨silent', left.trans same, grows, failure, cause, refuses, ?_, ?_⟩
    · rw [report, RunError.report_of_cause (refuses.causes_eq .standardInput)]
    · rw [report', RunError.report_of_cause (refuses.causes_eq (.file path))]

/-- A snapshot on standard input comes to the document that it comes to in `a.json`. -/
theorem run_alike_on_piped_and_named_snapshot :
    let bytes := "\x7b\"className\":\"A\",\"type\":\"REPORTING_TASK\"\x7d".toUTF8
    let fromInput := run ["-f", "json"] none bytes (twoFiles [])
    let fromFile := run ["-f", "json", "-o", "out", "a.json"] none .empty (twoFiles [])
    fromInput.exitCode = 0 ∧ fromFile.exitCode = 0 ∧ 0 < fromInput.output.size ∧
      fromFile.workspace.tree.holds? ["w", "out", "A.json"] = some (.file fromInput.output) := by
  intro bytes fromInput fromFile
  have named (request : Request) (describes : Describes bytes request) :
      request.fileName .json = "A.json" := by
    obtain ⟨text, decoded, read⟩ := describes
    have known : ((String.fromUTF8? bytes).bind fun text =>
        (Request.ofText text).toOption.map fun request => request.fileName .json) = some "A.json" := by
      decide +kernel
    rw [decoded, Option.bind_some, read] at known
    exact Option.some.inj known
  obtain ⟨together, -, -, succeeds, -⟩ :=
    @run_alike_on_input_and_file ["-f", "json"] ["-f", "json", "-o", "out", "a.json"]
      { format := .json } { files := ["a.json"], output := some "out", format := .json } "out" (twoFiles [])
      (twoFiles [("out", .empty)]) { files := [⟨"a.json"⟩] } ⟨"a.json"⟩ bytes none none .empty (twoFiles [])
      rfl rfl rfl nofun rfl rfl rfl rfl rfl rfl rfl rfl
      (by
        intro request content describes _
        rw [named request describes]
        rfl)
  have well : fromInput.exitCode = 0 := by decide +kernel
  have spoken : 0 < fromInput.output.size := by decide +kernel
  obtain ⟨request, content, root, describes, -, output, leads, held⟩ := succeeds well
  obtain rfl : ["w", "out"] = root := Except.ok.inj leads.1
  refine ⟨well, together.mp well, spoken, ?_⟩
  have place : (["w", "out", "A.json"] : Place) = ["w", "out"] ++ [request.fileName .json] := by
    rw [named request describes]
    rfl
  rw [held, output, place]
  exact Function.update_self ..

end ComponentDocs.Command
