import ComponentDocs.Proofs.Document.Hooks
import ComponentDocs.Proofs.Json.Normal
import Mathlib.Data.List.DropRight

/-! Sections written to JSON in any order and number. They only gather members; what a footer
writes is the object of what was gathered since the last header or footer. -/
namespace ComponentDocs

namespace Json

/-- Every key once, in the order of first writing, with the value that was written last. -/
def latest (written : Members) : Members :=
  (written.map Prod.fst).eraseDups.filterMap fun key =>
    (values key written).getLast?.map fun value => (key, value)

theorem names_merge (members : Members) :
    (merge members).map Prod.fst = (members.map Prod.fst).eraseDups := by
  induction members using List.reverseRecOn with
  | nil => rfl
  | append_singleton members member ih =>
    rw [merge, List.foldl_append, List.foldl_cons, List.foldl_nil, names_put,
      show members.foldl _ [] = merge members from rfl, ih, List.map_append, List.eraseDups_append]
    by_cases known : member.1 ∈ members.map Prod.fst
    · simp [List.removeAll, known]
    · simp [List.removeAll, known, List.eraseDups_cons]

theorem get?_of_mem {members : Members} (distinct : (members.map Prod.fst).Nodup)
    {member : String × Json} (inside : member ∈ members) :
    get? member.1 members = some member.2 := by
  have few : (values member.1 members).length ≤ 1 := length_values_le distinct
  have there := mem_values inside
  rw [get?_eq_head?]
  rcases known : values member.1 members with _ | ⟨value, _ | ⟨second, rest⟩⟩
  · rw [known] at there
    cases there
  · rw [known, List.mem_singleton] at there
    rw [there, List.head?_cons]
  · rw [known] at few
    simp only [List.length_cons] at few
    omega

theorem merge_eq_latest (written : Members) : merge written = latest written := by
  have held : ∀ member ∈ merge written,
      (get? member.1 (merge written)).map (fun value => (member.1, value)) = some member := by
    intro member inside
    rw [get?_of_mem (nodup_merge written) inside, Option.map_some]
  simp only [latest, ← names_merge, ← get?_merge, List.filterMap_map, Function.comp_def]
  rw [List.filterMap_congr held, List.filterMap_some]

theorem mem_of_mem_latest {written : Members} {member : String × Json}
    (inside : member ∈ latest written) : member ∈ written := by
  obtain ⟨key, -, held⟩ := List.mem_filterMap.mp inside
  obtain ⟨value, last, rfl⟩ := Option.map_eq_some_iff.mp held
  exact mem_of_mem_values (List.mem_of_getLast? last)

end Json

theorem firstOccurrences_eq_nil {texts : List String} : firstOccurrences texts = [] ↔ texts = [] := by
  cases texts <;> simp [firstOccurrences]

theorem SystemResourceConsideration.uses_eq_nil {considerations : List SystemResourceConsideration} :
    uses considerations = [] ↔ ∀ consideration ∈ considerations, consideration.resource = none := by
  induction considerations with
  | nil => simp [uses]
  | cons consideration considerations ih =>
    obtain ⟨resource | resource, description⟩ := consideration
    · simp [uses, ih]
    · simp [uses]

namespace Section

/-- The section encloses others and shows nothing of its own. -/
def encloses : Section → Bool
  | .header _ | .footer _ => true
  | _ => false

theorem encloses_eq_false_iff {part : Section} : part.encloses = false ↔ part.IsInner := by
  cases part <;> simp [encloses, IsInner]

/-- What the section is about is absent or empty, or does not hold. -/
def IsVacant : Section → Prop
  | .header _ | .footer _ | .name _ | .category _ | .tags _ => False
  | .deprecationNotice notice => notice = none
  | .description given => given = none
  | .properties declared _ => declared = []
  | .dynamicProperties declared => declared = []
  | .supportsSensitiveDynamicProperties supported => supported = false
  | .relationships set => set = .empty
  | .dynamicRelationship relationship => relationship = none
  | .readsAttributes attributes | .writesAttributes attributes => attributes = []
  | .triggerSerially present | .triggerWhenEmpty present
  | .triggerWhenAnyDestinationAvailable present | .supportsBatching present
  | .primaryNodeOnly present | .sideEffectFree present => present = false
  | .defaultSettings settings => settings = none
  | .stateful state => state = none
  | .restricted limits => limits = none
  | .inputRequirement requirement => requirement = none
  | .systemResourceConsiderations considerations =>
    ∀ consideration ∈ considerations, consideration.resource = none
  | .useCases cases => cases = []
  | .multiProcessorUseCases cases => cases = []
  | .seeAlso related => ∀ known, related = some known → known.classes = [] ∧ known.classNames = []
  | .defaultSchedule schedule => schedule = none
  | .providedServiceApis apis => apis = []

open Content in
/-- Between header and footer, the sections that show nothing are the vacant ones. -/
theorem entries_eq_nil_iff {part : Section} (inner : part.IsInner) : part.entries = [] ↔ part.IsVacant := by
  cases part with
  | header | footer => exact inner.elim
  | name | category | tags => simp [entries, slots, present, IsVacant]
  | deprecationNotice | description | dynamicRelationship | defaultSettings | stateful | restricted
  | inputRequirement | defaultSchedule =>
    exact present_singleton_eq_nil.trans Option.map_eq_none_iff
  | properties | dynamicProperties | readsAttributes | writesAttributes | useCases
  | multiProcessorUseCases | providedServiceApis =>
    exact present_singleton_eq_nil.trans listed_eq_none
  | supportsSensitiveDynamicProperties | triggerSerially | triggerWhenEmpty
  | triggerWhenAnyDestinationAvailable | supportsBatching | primaryNodeOnly | sideEffectFree =>
    exact present_singleton_eq_nil.trans held_eq_none
  | relationships set =>
    obtain ⟨declared, distinct⟩ := set
    exact (present_singleton_eq_nil.trans listed_eq_none).trans (by simp [IsVacant, RelationshipSet.empty])
  | systemResourceConsiderations considerations =>
    exact (present_singleton_eq_nil.trans listed_eq_none).trans SystemResourceConsideration.uses_eq_nil
  | seeAlso related =>
    cases related with
    | none => simp [entries, slots, present, IsVacant]
    | some known =>
      refine (present_singleton_eq_nil.trans listed_eq_none).trans ?_
      simp [IsVacant, firstOccurrences_eq_nil]

/-- The members that sections have written since the last header or footer among them. -/
def written (parts : List Section) : Json.Members :=
  (parts.rtakeWhile fun part => !part.encloses).flatMap fun part => Content.jsonMembers part.entries

theorem written_inner {part : Section} (inner : part.IsInner) (parts : List Section) :
    written (parts ++ [part]) = written parts ++ Content.jsonMembers part.entries := by
  rw [written, List.rtakeWhile_concat_pos _ _ _ (by simp [encloses_eq_false_iff.mpr inner]),
    List.flatMap_append, List.flatMap_singleton, written]

theorem written_of_encloses {part : Section} (outer : part.encloses = true) (parts : List Section) :
    written (parts ++ [part]) = [] := by
  rw [written, List.rtakeWhile_concat_neg _ _ _ (by simp [outer]), List.flatMap_nil]

/-- What a section sends behind others: nothing, but for a footer. -/
def sends (layout : Json.Layout) (before : List Section) : Section → List Char
  | .footer _ => (Json.object (Json.latest (written before))).print layout 0 ++ ['\n']
  | _ => []

/-- What sections send one after another, behind those `before`. -/
def sendsAll (layout : Json.Layout) (before : List Section) : List Section → List Char
  | [] => []
  | part :: parts => part.sends layout before ++ sendsAll layout (before ++ [part]) parts

theorem sendsAll_concat (layout : Json.Layout) (before parts : List Section) (part : Section) :
    sendsAll layout before (parts ++ [part]) =
      sendsAll layout before parts ++ part.sends layout (before ++ parts) := by
  induction parts generalizing before with
  | nil => simp only [List.nil_append, sendsAll, List.append_nil]
  | cons first parts ih =>
    simp only [List.cons_append, sendsAll, ih, List.append_assoc, List.nil_append]

theorem entries_plain (part : Section) :
    ∀ member ∈ part.entries, member.2.json.Plain (Json.nestingLimit - 1) := by
  intro member inside
  let request : Request := { component := part.owner, propertyServices := part.services }
  have proper : (Content.record (Content.present request.view.slots)).Proper Json.nestingLimit "extension" :=
    request.content_proper
  have there : member ∈ Content.present request.view.slots := by
    rw [← request.flatMap_entries]
    exact List.mem_flatMap.mpr ⟨part, part.mem_sections, inside⟩
  cases proper with
  | record _ _ _ each => exact (each member there).plain

theorem parse_latest (parts : List Section) (layout : Json.Layout) :
    Json.parse (String.ofList ((Json.object (Json.latest (written parts))).print layout 0 ++ ['\n'])) =
      .ok (.object (Json.latest (written parts))) := by
  apply Json.parse_print
  rw [show Json.nestingLimit = (Json.nestingLimit - 1) + 1 from rfl, Json.Plain]
  refine ⟨?_, fun member inside => ?_⟩
  · rw [← Json.merge_eq_latest]
    exact Json.nodup_merge _
  · obtain ⟨part, -, shown⟩ := List.mem_flatMap.mp (Json.mem_of_mem_latest inside)
    rw [Content.jsonMembers_eq_map] at shown
    obtain ⟨entry, there, rfl⟩ := List.mem_map.mp shown
    exact part.entries_plain entry there

end Section

namespace Json.DocumentWriter

/-- The writer is where sections `parts` take a fresh one over `sink`. -/
structure Reached (options : Options) (sink : Sink) (parts : List Section) (writer : DocumentWriter) :
    Prop where
  layout : writer.layout = options.indent
  members : writer.members = latest (Section.written parts)
  endless : writer.sink.room = none
  taken : writer.sink.taken = sink.taken ++ Sink.bytesOf (Section.sendsAll options.indent [] parts)

theorem writeText_endless {sink : Sink} (endless : sink.room = none) (text : List Char) :
    sink.writeText text = (.ok (), sink.took (Sink.bytesOf text) 1) :=
  Sink.write_of_hasRoom (Sink.hasRoom_of_endless endless _)

theorem deliver_endless {writer : DocumentWriter} (endless : writer.sink.room = none) :
    writer.deliver = (.ok (), { writer with
      members := []
      sink := writer.sink.took
        (Sink.bytesOf ((Json.object writer.members).print writer.layout 0 ++ ['\n'])) 2 }) := by
  have behind (bytes : ByteArray) : (writer.sink.took bytes 1).room = none :=
    congrArg (Option.map _) endless
  rw [deliver, writeText_endless endless]
  dsimp only
  rw [writeText_endless (behind _), Sink.took_took, Sink.bytesOf_append]

theorem members_deliver (writer : DocumentWriter) : writer.deliver.2.members = [] := by
  rw [deliver]
  split <;> rfl

variable {options : Options} {sink : Sink} {parts : List Section} {writer : DocumentWriter}

theorem Reached.write (reached : Reached options sink parts writer) (part : Section) :
    ∃ next, DocumentWriter.write part writer = (.ok (), next) ∧
      Reached options sink (parts ++ [part]) next := by
  obtain ⟨layout, members, endless, taken⟩ := reached
  by_cases inner : part.IsInner
  · refine ⟨_, write_inner inner writer, layout, ?_, endless, ?_⟩
    · rw [gatherAll, members, ← merge_eq_latest, ← merge_eq_latest, Section.written_inner inner, merge,
        merge, List.foldl_append]
    · have silent : part.sends options.indent ([] ++ parts) = [] := by
        cases part <;> first | rfl | exact inner.elim
      rw [gatherAll, taken, Section.sendsAll_concat, silent, List.append_nil]
  · cases part with
    | header component =>
      refine ⟨_, rfl, layout, ?_, endless, ?_⟩
      · rw [Section.written_of_encloses rfl]
        rfl
      · have silent : (Section.header component).sends options.indent ([] ++ parts) = [] := rfl
        rw [taken, Section.sendsAll_concat, silent, List.append_nil]
    | footer component =>
      refine ⟨_, deliver_endless endless, layout, ?_, congrArg (Option.map _) endless, ?_⟩
      · rw [Section.written_of_encloses rfl]
        rfl
      · simp only [Sink.took, taken, members, layout, Section.sendsAll_concat, Section.sends, List.nil_append,
          Sink.bytesOf_append, ByteArray.append_assoc]
    | _ => exact absurd trivial inner

theorem Reached.writeAll (reached : Reached options sink parts writer) (more : List Section) :
    ∃ next, eachStep DocumentWriter.write more writer = (.ok (), next) ∧
      Reached options sink (parts ++ more) next := by
  induction more generalizing parts writer with
  | nil => exact ⟨writer, rfl, by rwa [List.append_nil]⟩
  | cons part more ih =>
    obtain ⟨next, written, reached⟩ := reached.write part
    obtain ⟨last, others, reached⟩ := ih reached
    refine ⟨last, ?_, ?_⟩
    · simp only [eachStep, written, others]
    · rwa [List.append_assoc, List.singleton_append] at reached

theorem Reached.note (reached : Reached options sink parts writer) (event : Log.Event) :
    Reached options sink parts (writer.note event) :=
  ⟨reached.layout, reached.members, reached.endless, reached.taken⟩

theorem Reached.flush (reached : Reached options sink parts writer) :
    Reached options sink parts writer.flush.2 :=
  ⟨reached.layout, reached.members, reached.endless, reached.taken⟩

end Json.DocumentWriter

namespace Renderer

open Json (DocumentWriter)

def Call.sections : Call → List Section
  | .write part => [part]
  | .document request => request.sections
  | .flush | .resupply _ _ _ => []

variable {options : Options} {sink : Sink} {parts : List Section} {writer : DocumentWriter}

theorem reached_perform {call : Call} (hook : call.IsHook)
    (reached : writer.Reached options sink parts) :
    ∃ next : DocumentWriter, (call.perform (.json writer)).2 = .json next ∧
      next.Reached options sink (parts ++ call.sections) := by
  cases call with
  | write part =>
    obtain ⟨next, written, reached⟩ := reached.write part
    refine ⟨next, ?_, reached⟩
    simp only [Call.perform, write, written]
  | flush =>
    refine ⟨_, rfl, ?_⟩
    rw [Call.sections, List.append_nil]
    exact reached.flush
  | document request =>
    obtain ⟨next, written, reached⟩ :=
      (reached.note request.component.openingEvent).writeAll request.sections
    have embedded := eachStep_embed write Renderer.json (fun _ _ => rfl) request.sections
      (writer.note request.component.openingEvent)
    rw [written] at embedded
    have embedded : eachStep Renderer.writer.write request.sections
        (Renderer.writer.note request.component.openingEvent (.json writer)) = (.ok (), .json next) :=
      embedded
    rcases flushed : Renderer.writer.flush (.json next) with ⟨failure | ⟨⟩, last⟩ <;>
      obtain rfl : Renderer.json next.flush.2 = last := congrArg Prod.snd flushed <;>
      simp only [Call.perform, document, Writer.document, embedded, flushed]
    · exact ⟨_, rfl, reached.flush⟩
    · exact ⟨_, rfl, reached.flush.note _⟩
  | resupply => exact hook.elim

theorem reached_afterCalls {calls : List Call} (hooks : ∀ call ∈ calls, call.IsHook)
    (reached : writer.Reached options sink parts) :
    ∃ next : DocumentWriter, (Renderer.json writer).afterCalls calls = .json next ∧
      next.Reached options sink (parts ++ calls.flatMap Call.sections) := by
  induction calls generalizing parts writer with
  | nil => exact ⟨writer, rfl, by rwa [List.flatMap_nil, List.append_nil]⟩
  | cons call calls ih =>
    obtain ⟨next, performed, reached⟩ := reached_perform (hooks call List.mem_cons_self) reached
    obtain ⟨last, others, reached⟩ := ih (fun other inside => hooks other (List.mem_cons_of_mem _ inside)) reached
    refine ⟨last, ?_, ?_⟩
    · rw [afterCalls, List.foldl_cons, performed]
      exact others
    · rwa [List.flatMap_cons, ← List.append_assoc]

/-- For all hooks in any order and number on a writer of JSON whose sink takes everything: each
footer has sent the object of what was gathered until then and a line feed, and nothing else
was sent. What is gathered are the members written since the last header or footer, each key
where it was written first with the value written last. From there, a section other than a
footer reaches no byte, a vacant one and a flush change nothing that was gathered, and a
footer sends one object, which is read back, and a line feed. After a footer nothing is
gathered, whatever the sink did. -/
theorem footers_write_objects (options : Options) {sink : Sink} (endless : sink.room = none)
    {calls : List Call} (hooks : ∀ call ∈ calls, call.IsHook) :
    ∃ writer : DocumentWriter,
      (create .json options sink).afterCalls calls = .json writer ∧
      writer.sink.taken = sink.taken ++
        Sink.bytesOf (Section.sendsAll options.indent [] (calls.flatMap Call.sections)) ∧
      writer.members = Json.latest (Section.written (calls.flatMap Call.sections)) ∧
      (∀ part : Section, (∀ component, part ≠ .footer component) →
        ∃ next, writer.write part = (.ok (), next) ∧ next.sink = writer.sink) ∧
      (∀ part : Section, part.IsVacant → writer.write part = (.ok (), writer)) ∧
      (writer.flush.2.sink.taken = writer.sink.taken ∧ writer.flush.2.members = writer.members) ∧
      (∀ component, ∃ text next, writer.write (.footer component) = (.ok (), next) ∧
        next.sink.taken = writer.sink.taken ++ Sink.bytesOf (text ++ ['\n']) ∧ next.members = [] ∧
        Json.parse (String.ofList (text ++ ['\n'])) = .ok (.object writer.members)) ∧
      ∀ (failing : Sink) (component : Component),
        (DocumentWriter.write (.footer component) { writer with sink := failing }).2.members = [] := by
  have fresh : DocumentWriter.Reached options sink [] { layout := options.indent, sink } :=
    ⟨rfl, rfl, endless, ByteArray.append_empty.symm⟩
  obtain ⟨writer, performed, reached⟩ := reached_afterCalls hooks fresh
  rw [List.nil_append] at reached
  refine ⟨writer, performed, reached.taken, reached.members, ?_, ?_, ⟨rfl, rfl⟩, ?_, ?_⟩
  · intro part noFooter
    by_cases inner : part.IsInner
    · exact ⟨_, DocumentWriter.write_inner inner writer, rfl⟩
    · cases part with
      | header component => exact ⟨_, rfl, rfl⟩
      | footer component => exact absurd rfl (noFooter component)
      | _ => exact absurd trivial inner
  · intro part vacant
    have inner : part.IsInner := by
      cases part <;> first | exact trivial | exact vacant.elim
    rw [DocumentWriter.write_inner inner, (Section.entries_eq_nil_iff inner).mpr vacant]
    rfl
  · intro component
    refine ⟨_, _, DocumentWriter.deliver_endless reached.endless, rfl, rfl, ?_⟩
    rw [reached.members]
    exact Section.parse_latest _ _
  · exact fun failing component => DocumentWriter.members_deliver _

/-- A tag list written twice, a description in between that is not there, and two footers. -/
theorem footers_write_objects_twice :
    let component : Component := { className := "A", kind := .reportingTask }
    let calls : List Call :=
      [.write (.tags ["a"]), .write (.name "A"), .write (.tags ["b"]), .write (.description none),
       .write (.footer component), .flush, .write (.footer component)]
    ∃ writer : DocumentWriter, (create .json {} {}).afterCalls calls = .json writer ∧
      writer.sink.taken = Sink.bytesOf "\x7b\"tags\":[\"b\"],\"name\":\"A\"\x7d\n\x7b\x7d\n".toList ∧
      writer.members = [] := by
  intro component calls
  have hooks : ∀ call ∈ calls, call.IsHook := by simp [calls, Call.IsHook]
  obtain ⟨writer, performed, taken, members, -⟩ := @footers_write_objects {} {} rfl calls hooks
  refine ⟨writer, performed, ?_, members⟩
  rw [taken, show (({} : Sink).taken) = .empty from rfl, ByteArray.empty_append]
  rfl

end Renderer

end ComponentDocs
