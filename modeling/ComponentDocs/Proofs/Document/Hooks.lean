import ComponentDocs.Proofs.Document.Grammar
import ComponentDocs.Proofs.Document.Reuse
import ComponentDocs.Proofs.Markup.Nesting

/-! Sections written to XML in any order and number. Over a sink that takes everything, what is
written depends on the events alone; its tags match at all times, and what is open are the
root elements whose footer has not come. -/
namespace ComponentDocs

open Markup (Balanced Event Margin Nests Node Pen)

namespace Section

/-- A component whose document has the section. -/
def owner : Section → Component
  | .header component | .footer component => component
  | .name className => { className, kind := .reportingTask }
  | .category known => ownerOf (.ofCategory known)
  | .deprecationNotice notice => { rule with deprecationNotice := notice }
  | .description text => { rule with description := text }
  | .tags texts => { rule with tags := texts }
  | .properties declared _ => { rule with properties := declared }
  | .dynamicProperties declared => { rule with dynamicProperties := declared }
  | .supportsSensitiveDynamicProperties supported =>
    { rule with supportsSensitiveDynamicProperties := supported }
  | .relationships set => processor { relationships := set }
  | .dynamicRelationship relationship => processor { dynamicRelationship := relationship }
  | .readsAttributes attributes => processor { readsAttributes := attributes }
  | .writesAttributes attributes => processor { writesAttributes := attributes }
  | .triggerSerially present => processor { triggerSerially := present }
  | .triggerWhenEmpty present => processor { triggerWhenEmpty := present }
  | .triggerWhenAnyDestinationAvailable present =>
    processor { triggerWhenAnyDestinationAvailable := present }
  | .supportsBatching present => processor { supportsBatching := present }
  | .primaryNodeOnly present => processor { primaryNodeOnly := present }
  | .sideEffectFree present => processor { sideEffectFree := present }
  | .defaultSettings settings => processor { defaultSettings := settings }
  | .stateful state => { rule with stateful := state }
  | .restricted limits => { rule with restricted := limits }
  | .inputRequirement requirement => { rule with inputRequirement := requirement }
  | .systemResourceConsiderations considerations =>
    { rule with systemResourceConsiderations := considerations }
  | .useCases cases => { rule with useCases := cases }
  | .multiProcessorUseCases cases => { rule with multiProcessorUseCases := cases }
  | .seeAlso related => { rule with seeAlso := related }
  | .defaultSchedule schedule => { rule with defaultSchedule := schedule }
  | .providedServiceApis apis => ownerOf (.controllerService { providedServiceApis := apis })
where
  ownerOf (kind : Kind) : Component := { className := "", kind }
  rule : Component := ownerOf .flowAnalysisRule
  processor (metadata : ProcessorMetadata) : Component := ownerOf (.processor metadata)

def services : Section → PropertyServices
  | .properties _ services => services
  | _ => .empty

/-- Every section, with whatever it is about, belongs to some document. -/
theorem mem_sections (part : Section) :
    part ∈ Request.sections { component := part.owner, propertyServices := part.services } := by
  cases part with
  | category known =>
    have same : (Kind.ofCategory known).category = known := by cases known <;> rfl
    simp [Request.sections, owner, owner.ownerOf, Component.category, same]
  | _ =>
    simp [Request.sections, owner, owner.ownerOf, owner.rule, owner.processor, services,
      Kind.processor?, ProcessorMetadata.sections, Request.providedApis, Kind.controllerService?]

end Section

namespace Content

theorem Proper.member {levels : Nat} {name : String} {members : List (String × Content)}
    (proper : (Content.record members).Proper levels name) {member : String × Content}
    (inside : member ∈ members) :
    Markup.isName member.1.toList ∧ ∃ levels, member.2.Proper levels member.1 := by
  cases proper with
  | record inhabited distinct named proper => exact ⟨named member inside, _, proper member inside⟩

theorem named_leaf {name : String} (value : String) (known : Markup.isName name.toList) :
    ∀ event ∈ Markup.leaf name value, event.Named := by
  intro event inside
  simp only [Markup.leaf, List.mem_cons, List.not_mem_nil, or_false] at inside
  rcases inside with rfl | rfl | rfl
  · exact known
  · exact trivial
  · exact trivial

theorem named_around {name : String} {events : List Event} (known : Markup.isName name.toList)
    (held : ∀ event ∈ events, event.Named) :
    ∀ event ∈ Event.start name :: (events ++ [.finish]), event.Named := by
  intro event inside
  rcases List.mem_cons.mp inside with rfl | inside
  · exact known
  rcases List.mem_append.mp inside with inside | inside
  · exact held event inside
  · rw [List.mem_singleton.mp inside]
    exact trivial

theorem memberEvents_eq_flatMap (members : List (String × Content)) :
    memberEvents members = members.flatMap fun member => member.2.events member.1 := by
  induction members with
  | nil => rfl
  | cons member members ih => rw [memberEvents, ih, List.flatMap_cons]

theorem itemEvents_eq_flatMap (item : String) (items : List Content) :
    itemEvents item items = items.flatMap (events item) := by
  induction items with
  | nil => rfl
  | cons content items ih => rw [itemEvents, ih, List.flatMap_cons]

theorem named_events {levels : Nat} {name : String} {content : Content}
    (proper : content.Proper levels name) (known : Markup.isName name.toList) :
    ∀ event ∈ content.events name, event.Named := by
  induction proper with
  | text | missing | flag | count => exact named_leaf _ known
  | record _ _ named _ ih =>
    apply named_around known
    intro event inside
    rw [memberEvents_eq_flatMap] at inside
    obtain ⟨member, there, inside⟩ := List.mem_flatMap.mp inside
    exact ih member there (named member there) event inside
  | @list _ _ items named _ ih =>
    cases items with
    | nil => exact named_leaf _ known
    | cons first items =>
      apply named_around known
      intro event inside
      rw [itemEvents_eq_flatMap] at inside
      obtain ⟨content, there, inside⟩ := List.mem_flatMap.mp inside
      exact ih content there named event inside

/-- Members among open elements are written as complete elements, with blanks before them if
there is a margin. -/
theorem exists_nodes (members : List (String × Content))
    (proper : ∀ member ∈ members,
      Markup.isName member.1.toList ∧ ∃ levels, member.2.Proper levels member.1)
    (margin : Option Margin) (unclosed : List String) :
    ∃ nodes, Pen.print (memberEvents members) ⟨margin, unclosed⟩ = Node.printAll nodes ∧
      ∀ node ∈ nodes, node.Named ∧ (node.isElement ∨ node.isBlank ∧ margin.isSome) := by
  induction members generalizing margin with
  | nil => exact ⟨[], rfl, fun _ absurd => by cases absurd⟩
  | cons member members ih =>
    obtain ⟨name, content⟩ := member
    obtain ⟨known, levels, first⟩ := proper (name, content) List.mem_cons_self
    obtain ⟨nodes, printed, complete⟩ :=
      ih (fun other inside => proper other (List.mem_cons_of_mem _ inside)) (Markup.behindTag margin)
    refine ⟨Markup.blanks margin ++ content.element (Markup.behindTag margin) name :: nodes, ?_, ?_⟩
    · rw [memberEvents, print_events, printed, Node.printAll_append, Markup.printAll_blanks,
        Node.printAll]
    · intro node inside
      rcases List.mem_append.mp inside with blank | inside
      · have named := Node.allNamed_iff.mp (Markup.allNamed_blanks margin) node blank
        refine ⟨named, .inr ⟨(Markup.mem_blanks blank).1, ?_⟩⟩
        cases margin with
        | none => cases blank
        | some margin => rfl
      rcases List.mem_cons.mp inside with rfl | inside
      · exact ⟨⟨known, allNamed_nodes first _⟩, .inl rfl⟩
      · obtain ⟨named, kind⟩ := complete node inside
        refine ⟨named, kind.imp_right fun blank => ⟨blank.1, ?_⟩⟩
        simpa only [Markup.behindTag, Option.isSome_map] using blank.2

end Content

theorem Section.entries_proper (part : Section) :
    ∀ member ∈ part.entries,
      Markup.isName member.1.toList ∧ ∃ levels, member.2.Proper levels member.1 := by
  intro member inside
  let request : Request := { component := part.owner, propertyServices := part.services }
  have proper : (Content.record (Content.present request.view.slots)).Proper _ _ :=
    request.content_proper
  apply proper.member
  rw [← request.flatMap_entries]
  exact List.mem_flatMap.mpr ⟨part, part.mem_sections, inside⟩

namespace Markup.DocumentWriter

/-- The writer has become `next` by writing a row of events, all of which its sink took. -/
structure Took (events : List Event) (writer next : DocumentWriter) : Prop where
  pen : next.pen = writer.pen.afterAll events
  declares : next.declares = writer.declares
  endless : next.sink.room = none
  taken : next.sink.taken = writer.sink.taken ++ Sink.bytesOf (writer.pen.print events)

theorem Took.append {first second : List Event} {writer next last : DocumentWriter}
    (former : Took first writer next) (latter : Took second next last) :
    Took (first ++ second) writer last := by
  constructor
  · rw [latter.pen, former.pen, Pen.afterAll_append]
  · rw [latter.declares, former.declares]
  · exact latter.endless
  · rw [latter.taken, former.taken, former.pen, Pen.print, Pen.print, Pen.print, Pen.offersAll_append,
      List.flatten_append, Sink.bytesOf_append, ByteArray.append_assoc]

theorem Offered.took {events : List Event} {writer : DocumentWriter}
    {outcome : Except Failure Unit × DocumentWriter} (endless : writer.sink.room = none)
    (offered : Offered (writer.pen.offersAll events) (writer.pen.afterAll events) writer outcome) :
    outcome.1 = .ok () ∧ Took events writer outcome.2 := by
  have taken := Sink.offer_of_hasRoom
    (Sink.hasRoom_of_endless endless (Sink.bytesOf (writer.pen.offersAll events).flatten).size)
  obtain ⟨result, sink, declares, pen⟩ := offered
  rw [taken] at result sink
  refine ⟨result, pen result, declares, ?_, ?_⟩
  · rw [sink]
    exact congrArg (Option.map _) endless
  · rw [sink]
    rfl

/-- A section alone leaves open what was open, and writes complete elements. -/
theorem write_complete {part : Section} (inner : part.IsInner) {writer : DocumentWriter}
    (endless : writer.sink.room = none) :
    ∃ nodes next, write part writer = (.ok (), next) ∧ next.unclosed = writer.unclosed ∧
      next.sink.taken = writer.sink.taken ++ Sink.bytesOf (Node.printAll nodes) ∧
      ∀ node ∈ nodes, node.Named ∧ (node.isElement ∨ node.isBlank ∧ writer.margin.isSome) := by
  have offered := write_offered part writer
  rw [eventsOf_inner inner] at offered
  obtain ⟨result, took⟩ := offered.took endless
  obtain ⟨nodes, printed, complete⟩ :=
    Content.exists_nodes part.entries part.entries_proper writer.margin writer.unclosed
  have kept := congrArg Prod.snd
    (Pen.level_afterAll (Content.balanced_memberEvents part.entries) writer.pen)
  rw [← took.pen] at kept
  refine ⟨nodes, _, Prod.ext result rfl, kept, ?_, complete⟩
  rw [← printed]
  exact took.taken

end Markup.DocumentWriter

namespace Renderer

namespace Call

/-- The call is a hook, or a whole document, which is a row of hooks. -/
def IsHook : Call → Prop
  | .write _ | .flush | .document _ => True
  | .resupply _ _ _ => False

/-- How many headers wait for a footer. A footer that finds none is for nothing. -/
def pending : Call → Nat → Nat
  | .write (.header _), waiting => waiting + 1
  | .write (.footer _), waiting => waiting - 1
  | _, waiting => waiting

/-- The events of a call on a writer of XML. -/
def events (declares : Bool) : Call → List Event
  | .write part => Markup.DocumentWriter.eventsOf declares part
  | .flush | .resupply _ _ _ => []
  | .document request => request.markup declares

theorem named_events (declares : Bool) (call : Call) :
    ∀ event ∈ call.events declares, event.Named := by
  have root : Markup.isName "extension".toList := by decide
  have members (entries : List (String × Content))
      (proper : ∀ member ∈ entries,
        Markup.isName member.1.toList ∧ ∃ levels, member.2.Proper levels member.1) :
      ∀ event ∈ Content.memberEvents entries, event.Named := by
    intro event inside
    rw [Content.memberEvents_eq_flatMap] at inside
    obtain ⟨member, there, inside⟩ := List.mem_flatMap.mp inside
    obtain ⟨known, levels, proper⟩ := proper member there
    exact Content.named_events proper known event inside
  have declared : ∀ event ∈ if declares then [Event.declaration] else [], event.Named := by
    intro event inside
    cases declares with
    | false => cases inside
    | true =>
      rw [List.mem_singleton.mp inside]
      exact trivial
  cases call with
  | flush | resupply =>
    intro event inside
    cases inside
  | document request =>
    intro event inside
    rcases List.mem_append.mp inside with inside | inside
    · exact declared event inside
    · exact Content.named_events request.content_proper root event inside
  | write part =>
    intro event inside
    rcases part.isInner_or with inner | ⟨component, rfl⟩ | ⟨component, rfl⟩
    · rw [events, Markup.DocumentWriter.eventsOf_inner inner] at inside
      exact members _ (Section.entries_proper _) event inside
    · rw [events, Markup.DocumentWriter.eventsOf_header] at inside
      rcases List.mem_append.mp inside with inside | inside
      · exact declared event inside
      · rw [List.mem_singleton.mp inside]
        exact root
    · rw [List.mem_singleton.mp inside]
      exact trivial

theorem pending_inner {part : Section} (inner : part.IsInner) (waiting : Nat) :
    (Call.write part).pending waiting = waiting := by
  cases part <;> first | rfl | exact inner.elim

theorem unclosed_events (declares : Bool) (call : Call) {pen : Pen} {waiting : Nat}
    (waits : pen.unclosed = List.replicate waiting "extension") :
    (pen.afterAll (call.events declares)).unclosed =
      List.replicate (call.pending waiting) "extension" := by
  cases call with
  | flush | resupply => exact waits
  | document request => rw [events, request.afterAll_markup]; exact waits
  | write part =>
    rcases part.isInner_or with inner | ⟨component, rfl⟩ | ⟨component, rfl⟩
    · have level := Pen.level_afterAll (Content.balanced_memberEvents part.entries) pen
      rw [events, Markup.DocumentWriter.eventsOf_inner inner, pending_inner inner, ← waits]
      exact congrArg Prod.snd level
    · have opened : (pen.afterAll (events declares (.write (.header component)))).unclosed =
          "extension" :: pen.unclosed := by
        cases declares <;> rfl
      rw [opened, waits]
      rfl
    · obtain ⟨margin, unclosed⟩ := pen
      obtain rfl : unclosed = _ := waits
      cases waiting <;> rfl

theorem perform_took {call : Call} (hook : call.IsHook) {writer : Markup.DocumentWriter}
    (endless : writer.sink.room = none) :
    ∃ next, (call.perform (.xml writer)).2 = .xml next ∧
      Markup.DocumentWriter.Took (call.events writer.declares) writer next := by
  cases call with
  | write part =>
    obtain ⟨-, took⟩ := (writer.write_offered part).took endless
    exact ⟨_, rfl, took⟩
  | flush =>
    refine ⟨_, rfl, rfl, rfl, endless, ?_⟩
    exact (ByteArray.append_empty).symm
  | document request =>
    obtain ⟨result, reached, written, offered⟩ :=
      sections_xml request (writer.note request.component.openingEvent)
    have written : eachStep Renderer.writer.write request.sections
        (Renderer.writer.note request.component.openingEvent (.xml writer)) = (result, .xml reached) :=
      written
    have offered : Markup.DocumentWriter.Offered
        (writer.pen.offersAll (request.markup writer.declares))
        (writer.pen.afterAll (request.markup writer.declares)) writer (result, reached) :=
      ⟨offered.result, offered.sink, offered.declares, offered.pen⟩
    obtain ⟨succeeded, pen, declares, endless, taken⟩ := offered.took endless
    obtain rfl : result = .ok () := succeeded
    rcases flushed : Renderer.writer.flush (.xml reached) with ⟨failure | ⟨⟩, last⟩ <;>
      obtain rfl : Renderer.xml reached.flush.2 = last := congrArg Prod.snd flushed <;>
      simp only [perform, Renderer.document, Writer.document, written, flushed]
    · exact ⟨_, rfl, pen, declares, endless, taken⟩
    · exact ⟨_, rfl, pen, declares, endless, taken⟩
  | resupply => exact hook.elim

end Call

theorem afterCalls_took {calls : List Call} (hooks : ∀ call ∈ calls, call.IsHook)
    (writer : Markup.DocumentWriter) (endless : writer.sink.room = none) :
    ∃ next, (Renderer.xml writer).afterCalls calls = .xml next ∧
      Markup.DocumentWriter.Took (calls.flatMap (Call.events writer.declares)) writer next := by
  induction calls generalizing writer with
  | nil => exact ⟨writer, rfl, rfl, rfl, endless, ByteArray.append_empty.symm⟩
  | cons call calls ih =>
    obtain ⟨next, performed, first⟩ := Call.perform_took (hooks call List.mem_cons_self) endless
    obtain ⟨last, reached, others⟩ :=
      ih (fun other inside => hooks other (List.mem_cons_of_mem _ inside)) next first.endless
    rw [first.declares] at others
    refine ⟨last, ?_, first.append others⟩
    rw [afterCalls, List.foldl_cons, performed]
    exact reached

theorem unclosed_afterAll (declares : Bool) (calls : List Call) {pen : Pen} {waiting : Nat}
    (waits : pen.unclosed = List.replicate waiting "extension") :
    (pen.afterAll (calls.flatMap (Call.events declares))).unclosed =
      List.replicate (calls.foldl (fun waiting call => call.pending waiting) waiting) "extension" := by
  induction calls generalizing pen waiting with
  | nil => exact waits
  | cons call calls ih =>
    rw [List.flatMap_cons, Pen.afterAll_append]
    exact ih (call.unclosed_events declares waits)

/-- For all hooks in any order and number on a writer of XML whose sink takes everything: what
is written consists of matching tags, up to the elements that the writer holds open, and these
are the roots whose footer has not come. From there, each section writes complete elements and
leaves open what was open, and a footer with nothing open does nothing. -/
theorem hooks_stay_nested (options : Options) {sink : Sink} (endless : sink.room = none)
    {calls : List Call} (hooks : ∀ call ∈ calls, call.IsHook) :
    ∃ writer text,
      (create .xml options sink).afterCalls calls = .xml writer ∧
      writer.sink.taken = sink.taken ++ Sink.bytesOf text ∧
      Nests text [] writer.unclosed ∧
      writer.unclosed =
        List.replicate (calls.foldl (fun waiting call => call.pending waiting) 0) "extension" ∧
      (∀ part : Section, part.IsInner →
        ∃ nodes next, writer.write part = (.ok (), next) ∧ next.unclosed = writer.unclosed ∧
          next.sink.taken = writer.sink.taken ++ Sink.bytesOf (Node.printAll nodes) ∧
          ∀ node ∈ nodes, node.Named ∧ (node.isElement ∨ node.isBlank ∧ options.indent.isSome)) ∧
      (writer.unclosed = [] → ∀ component, writer.write (.footer component) = (.ok (), writer)) := by
  let fresh : Markup.DocumentWriter :=
    { declares := options.xmlDeclaration
      margin := options.indent.map fun width => { width }
      sink }
  obtain ⟨writer, reached, took⟩ := afterCalls_took hooks fresh endless
  have known := isFor_afterCalls calls (isFor_create .xml options sink)
  rw [show create .xml options sink = .xml fresh from rfl, reached] at known
  refine ⟨writer, _, reached, took.taken, ?_, ?_, ?_, ?_⟩
  · have nests : Nests (fresh.pen.print (calls.flatMap (Call.events fresh.declares))) []
        (fresh.pen.afterAll (calls.flatMap (Call.events fresh.declares))).unclosed := by
      apply Pen.nests_print
      · intro event inside
        obtain ⟨call, -, inside⟩ := List.mem_flatMap.mp inside
        exact call.named_events fresh.declares event inside
      · intro name inside
        cases inside
    rw [← took.pen] at nests
    exact nests
  · have waits : (fresh.pen.afterAll (calls.flatMap (Call.events fresh.declares))).unclosed =
        List.replicate (calls.foldl (fun waiting call => call.pending waiting) 0) "extension" :=
      unclosed_afterAll fresh.declares calls rfl
    rw [← took.pen] at waits
    exact waits
  · intro part inner
    obtain ⟨nodes, next, written, kept, taken, complete⟩ :=
      Markup.DocumentWriter.write_complete inner took.endless
    refine ⟨nodes, next, written, kept, taken, fun node inside => ?_⟩
    rw [← known.2.2, Option.isSome_map]
    exact complete node inside
  · intro nothing component
    obtain ⟨declares, margin, unclosed, sink⟩ := writer
    obtain rfl : unclosed = [] := nothing
    rfl

theorem hooks_stay_nested_early_footer :
    let component : Component := { className := "A", kind := .reportingTask }
    let calls : List Call :=
      [.write (.footer component), .write (.header component), .write (.header component),
       .write (.name "A")]
    ∃ writer text, (create .xml { indent := some 2 } {}).afterCalls calls = .xml writer ∧
      writer.sink.taken = Sink.bytesOf text ∧ Nests text [] ["extension", "extension"] := by
  intro component calls
  have hooks : ∀ call ∈ calls, call.IsHook := by simp [calls, Call.IsHook]
  have endless : ({} : Sink).room = none := rfl
  obtain ⟨writer, text, reached, taken, nests, waits, -⟩ :=
    hooks_stay_nested { indent := some 2 } endless hooks
  rw [waits] at nests
  refine ⟨writer, text, reached, ?_, nests⟩
  rw [taken]
  exact ByteArray.empty_append

end Renderer

end ComponentDocs
