import ComponentDocs.Proofs.Document.Distinct

/-! What a format displays of the values that a document shows. Two values have the same
content there exactly if what is shown of them is equal. -/
namespace ComponentDocs

open Content (shownIn membersShownIn itemsShownIn present listed held word)

/-- What stands in each place, as far as a format displays it. -/
def Slots.shownIn (format : Format) (slots : Slots) : Slots :=
  slots.map fun slot => (slot.1, slot.2.map (Content.shownIn format))

namespace Slots

theorem shownIn_names (format : Format) (slots : Slots) :
    (slots.shownIn format).map Prod.fst = slots.map Prod.fst := by
  simp only [shownIn, List.map_map, Function.comp_def]

theorem present_shownIn (format : Format) (slots : Slots) :
    present (slots.shownIn format) = membersShownIn format (present slots) := by
  induction slots with
  | nil => rfl
  | cons slot slots ih =>
    obtain ⟨name, _ | content⟩ := slot
    · exact ih
    · exact congrArg (List.cons _) ih

theorem shownIn_cons {format : Format} {name : String} {first second : Option Content}
    {others others' : Slots} :
    shownIn format ((name, first) :: others) = shownIn format ((name, second) :: others') ↔
      first.map (Content.shownIn format) = second.map (Content.shownIn format) ∧
        others.shownIn format = others'.shownIn format := by
  simp only [shownIn, List.map_cons, List.cons.injEq, Prod.mk.injEq, true_and]

theorem shownIn_append {format : Format} {first second others others' : Slots}
    (level : first.length = second.length) :
    shownIn format (first ++ others) = shownIn format (second ++ others') ↔
      first.shownIn format = second.shownIn format ∧
        others.shownIn format = others'.shownIn format := by
  simp only [shownIn, List.map_append]
  exact ⟨fun same => List.append_inj same (by simpa using level), fun ⟨front, back⟩ => by
    rw [front, back]⟩

theorem record_shownIn {format : Format} {first second : Slots}
    (names : first.map Prod.fst = second.map Prod.fst) (distinct : (first.map Prod.fst).Nodup) :
    (Content.record (present first)).shownIn format = (Content.record (present second)).shownIn format ↔
      first.shownIn format = second.shownIn format := by
  simp only [Content.shownIn, Content.record.injEq, ← present_shownIn]
  refine ⟨Content.present_injective ?_ ?_, congrArg present⟩
  · rw [shownIn_names, shownIn_names, names]
  · rwa [shownIn_names]

end Slots

/-- Contents are displayed alike exactly if what is shown of the values is equal. -/
def Displays {α β : Type} (format : Format) (content : α → Content) (shown : α → β) : Prop :=
  ∀ first second, (content first).shownIn format = (content second).shownIn format ↔
    shown first = shown second

/-- The same of a place that may stay empty. -/
def DisplaysIn {α β : Type} (format : Format) (place : α → Option Content) (shown : α → β) : Prop :=
  ∀ first second, (place first).map (shownIn format) = (place second).map (shownIn format) ↔
    shown first = shown second

section Shapes

variable {α β : Type} {format : Format} {content : α → Content} {shown : α → β}

theorem displays_text : Displays format .text id := by
  intro first second
  simp only [shownIn, Content.text.injEq, id]

theorem displays_flag : Displays format .flag id := by
  intro first second
  simp only [shownIn, Content.flag.injEq, id]

theorem displays_word [Vocabulary α] [LawfulVocabulary α] : Displays format (word (α := α)) id := by
  intro first second
  simp only [word, shownIn, Content.text.injEq, Vocabulary.name_inj, id]

/-- Only JSON tells a note that is absent from an empty one. -/
theorem displays_note : Displays format .ofOption format.shownNote := by
  intro first second
  cases format <;> cases first <;> cases second <;>
    simp [Content.ofOption, shownIn, Format.shownNote]

theorem displays_list {item : String} (each : Displays format content shown) :
    Displays format (fun values : List α => .list item (values.map content)) (List.map shown) := by
  intro first second
  simp only [shownIn, Content.itemsShownIn_eq_map, List.map_map, Content.list.injEq, true_and]
  exact ⟨map_eq_of_map_eq _ fun value _ other _ => (each value other).mp,
    map_eq_of_map_eq _ fun value _ other _ => (each value other).mpr⟩

theorem displays_all {item : String} (each : Displays format content id) :
    Displays format (fun values : List α => .list item (values.map content)) id := by
  intro first second
  simpa only [List.map_id, id] using displays_list each first second

theorem displays_texts {item : String} : Displays format (.texts item) id :=
  displays_all displays_text

theorem displays_words [Vocabulary α] [LawfulVocabulary α] {item : String} :
    Displays format (fun words : List α => .list item (words.map word)) id :=
  displays_all displays_word

theorem displays_some (each : Displays format content shown) :
    DisplaysIn format (fun value => some (content value)) shown := by
  intro first second
  simpa only [Option.map_some, Option.some.injEq] using each first second

theorem displays_map (each : Displays format content id) :
    DisplaysIn format (Option.map content) id := by
  intro first second
  cases first with
  | none => cases second <;> simp
  | some value =>
    cases second with
    | none => simp
    | some other => simpa using each value other

theorem displays_listed {item : String} (each : Displays format content shown) :
    DisplaysIn format (listed item content) (List.map shown) := by
  intro first second
  cases first with
  | nil => cases second <;> simp [listed]
  | cons value values =>
    cases second with
    | nil => simp [listed]
    | cons other others => exact displays_some (displays_list each) (value :: values) (other :: others)

theorem displays_every {item : String} (each : Displays format content id) :
    DisplaysIn format (listed item content) id := by
  intro first second
  simpa only [List.map_id, id] using displays_listed each first second

theorem displays_held : DisplaysIn format held id := by
  intro first second
  cases first <;> cases second <;> simp [held]

theorem displays_record {slots : α → Slots} (names : ∀ first second,
      (slots first).map Prod.fst = (slots second).map Prod.fst)
    (distinct : ∀ value, ((slots value).map Prod.fst).Nodup)
    (places : ∀ first second, (slots first).shownIn format = (slots second).shownIn format ↔
      shown first = shown second) :
    Displays format (fun value => .record (present (slots value))) shown := by
  intro first second
  rw [Slots.record_shownIn (names first second) (distinct first)]
  exact places first second

end Shapes

section Records

variable {format : Format}

theorem displays_serviceApi : Displays format .ofServiceApi id := by
  rintro ⟨⟩ ⟨⟩
  simp [Content.ofServiceApi, shownIn, membersShownIn]

theorem displays_allowableValue :
    Displays format .ofAllowableValue (AllowableValue.shownIn format) := by
  rintro ⟨displayName, value, description⟩ ⟨displayName', value', description'⟩
  simp only [Content.ofAllowableValue, shownIn, membersShownIn, AllowableValue.shownIn,
    displays_note description description', Content.record.injEq, List.cons.injEq, Prod.mk.injEq,
    Content.text.injEq, AllowableValue.mk.injEq, true_and, and_true]

theorem displays_dependency : Displays format PropertyDependency.content id := by
  refine displays_record (fun _ _ => rfl) (fun _ => by simp [PropertyDependency.slots]) ?_
  rintro ⟨_, _, values⟩ ⟨_, _, values'⟩
  simp only [PropertyDependency.slots, Slots.shownIn_cons, PropertyDependency.mk.injEq, id, and_true]
  exact and_congr (displays_some displays_text _ _) (and_congr (displays_some displays_text _ _)
    (displays_map displays_texts values values'))

theorem displays_resources : Displays format .ofResources id := by
  rintro ⟨cardinality, types⟩ ⟨cardinality', types'⟩
  have listed := @displays_words _ format _ _ "resourceType" types types'
  simp only [shownIn, Content.list.injEq, true_and] at listed
  simp [Content.ofResources, shownIn, membersShownIn, displays_word cardinality cardinality', listed]

theorem displays_property : Displays format PropertyView.content (PropertyView.shownIn format) := by
  refine displays_record (fun _ _ => rfl) (fun _ => by simp [PropertyView.slots]) ?_
  intro first second
  simp only [PropertyView.slots, Slots.shownIn_cons, PropertyView.shownIn, PropertyView.mk.injEq,
    and_true]
  repeat' apply and_congr
  · exact displays_some displays_text _ _
  · exact displays_some displays_text _ _
  · exact displays_some displays_note _ _
  · exact displays_map displays_text _ _
  · exact displays_map displays_serviceApi _ _
  · exact displays_listed displays_allowableValue _ _
  · exact displays_some displays_flag _ _
  · exact displays_some displays_flag _ _
  · exact displays_some displays_flag _ _
  · exact displays_map displays_word _ _
  · exact displays_some displays_flag _ _
  · exact displays_some displays_flag _ _
  · exact displays_map displays_resources _ _
  · exact displays_every displays_dependency _ _

theorem displays_dynamicProperty : Displays format .ofDynamicProperty id := by
  rintro ⟨_, _, _, scope⟩ ⟨_, _, _, scope'⟩
  simp [Content.ofDynamicProperty, shownIn, membersShownIn, displays_word scope scope']

theorem displays_relationship : Displays format .ofRelationship id := by
  rintro ⟨⟩ ⟨⟩
  simp [Content.ofRelationship, shownIn, membersShownIn]

theorem displays_dynamicRelationship : Displays format .ofDynamicRelationship id := by
  rintro ⟨⟩ ⟨⟩
  simp [Content.ofDynamicRelationship, shownIn, membersShownIn]

theorem displays_attribute : Displays format .ofAttribute id := by
  rintro ⟨⟩ ⟨⟩
  simp [Content.ofAttribute, shownIn, membersShownIn]

theorem displays_defaultSettings : Displays format .ofDefaultSettings id := by
  rintro ⟨_, _, level⟩ ⟨_, _, level'⟩
  simp [Content.ofDefaultSettings, shownIn, membersShownIn, displays_word level level']

theorem displays_deprecation : Displays format DeprecationView.content id := by
  rintro ⟨_, alternatives⟩ ⟨_, alternatives'⟩
  simp [DeprecationView.content, shownIn, membersShownIn, displays_texts alternatives alternatives']

theorem displays_stateful : Displays format .ofStateful id := by
  rintro ⟨_, scopes⟩ ⟨_, scopes'⟩
  have listed := @displays_words _ format _ _ "scope" scopes scopes'
  simp only [shownIn, Content.list.injEq, true_and] at listed
  simp [Content.ofStateful, shownIn, membersShownIn, listed]

theorem displays_permission : Displays format
    (fun permission : Option RequiredPermission => .ofOption (permission.map RequiredPermission.wording))
    id := by
  have spelled (permission : RequiredPermission) : permission.label ≠ "" := by
    cases permission <;> decide
  rw [← funext RequiredPermission.label_eq]
  intro first second
  cases first <;> cases second <;> cases format <;>
    simp [Content.ofOption, shownIn, RequiredPermission.label_inj, spelled, (spelled _).symm]

theorem displays_restriction : Displays format .ofRestriction id := by
  rintro ⟨permission, _⟩ ⟨permission', _⟩
  simp [Content.ofRestriction, shownIn, membersShownIn, displays_permission permission permission']

theorem displays_restricted : Displays format RestrictedView.content id := by
  refine displays_record (fun _ _ => rfl) (fun _ => by simp [RestrictedView.slots]) ?_
  rintro ⟨explanation, restrictions⟩ ⟨explanation', restrictions'⟩
  simp only [RestrictedView.slots, Slots.shownIn_cons, RestrictedView.mk.injEq, id, and_true]
  exact and_congr (displays_map displays_text _ _) (displays_some (displays_all displays_restriction) _ _)

theorem displays_resourceUse : Displays format .ofResourceUse id := by
  rintro ⟨resource, _⟩ ⟨resource', _⟩
  simp [Content.ofResourceUse, shownIn, membersShownIn, displays_word resource resource']

theorem displays_useCase : Displays format .ofUseCase id := by
  rintro ⟨_, _, keywords, requirement, _⟩ ⟨_, _, keywords', requirement', _⟩
  simp [Content.ofUseCase, shownIn, membersShownIn, displays_texts keywords keywords',
    displays_word requirement requirement']

theorem displays_steps : Displays format (fun steps : List (String × String) =>
    .list "processorConfiguration" (steps.map .ofProcessorConfiguration)) id := by
  refine displays_all ?_
  rintro ⟨⟩ ⟨⟩
  simp [Content.ofProcessorConfiguration, shownIn, membersShownIn]

theorem displays_multiProcessorUseCase : Displays format MultiProcessorUseCaseView.content id := by
  rintro ⟨_, _, keywords, steps⟩ ⟨_, _, keywords', steps'⟩
  have shown := @displays_steps format steps steps'
  simp only [shownIn, Content.list.injEq, true_and] at shown
  simp [MultiProcessorUseCaseView.content, shownIn, membersShownIn, displays_texts keywords keywords',
    shown]

theorem displays_defaultSchedule : Displays format .ofDefaultSchedule id := by
  rintro ⟨strategy, _, tasks⟩ ⟨strategy', _, tasks'⟩
  simp [Content.ofDefaultSchedule, shownIn, membersShownIn, displays_word strategy strategy',
    UInt32.toNat_inj]

/-- What only processors show tells their metadata, but not whether there is any. -/
theorem processorSlots_shownIn {first second : Option ProcessorMetadata}
    (kind : first.isSome = second.isSome) :
    (View.processorSlots first).shownIn format = (View.processorSlots second).shownIn format ↔
      first = second := by
  cases first with
  | none =>
    cases second with
    | none => exact iff_of_true rfl rfl
    | some => cases kind
  | some metadata =>
    cases second with
    | none => cases kind
    | some other =>
      rw [Option.some.injEq]
      obtain ⟨⟨relationships, _⟩, _, _, _, _, _, _, _, _, _, _⟩ := metadata
      obtain ⟨⟨relationships', _⟩, _, _, _, _, _, _, _, _, _, _⟩ := other
      simp only [View.processorSlots, Option.bind_some, Slots.shownIn_cons, ProcessorMetadata.mk.injEq,
        RelationshipSet.mk.injEq, and_true]
      repeat' apply and_congr
      · exact displays_every displays_relationship _ _
      · exact displays_map displays_dynamicRelationship _ _
      · exact displays_every displays_attribute _ _
      · exact displays_every displays_attribute _ _
      · exact displays_held _ _
      · exact displays_held _ _
      · exact displays_held _ _
      · exact displays_held _ _
      · exact displays_held _ _
      · exact displays_held _ _
      · exact displays_map displays_defaultSettings _ _

end Records

namespace Request

theorem view_processor_isSome (request : Request) :
    request.view.processor.isSome ↔ request.view.category = .processor := by
  simp only [view]
  cases request.component.kind <;> simp

theorem shownIn_content_eq_iff (format : Format) (first second : Request) :
    first.content.shownIn format = second.content.shownIn format ↔
      first.view.shownIn format = second.view.shownIn format := by
  have kind (same : first.view.category = second.view.category) :
      first.view.processor.isSome = second.view.processor.isSome := by
    rw [Bool.eq_iff_iff, view_processor_isSome, view_processor_isSome, same]
  have names : first.view.slots.map Prod.fst = second.view.slots.map Prod.fst := rfl
  rw [content, content, View.content, View.content,
    Slots.record_shownIn names first.view.slots_names_nodup]
  simp only [View.slots, View.shownIn, View.mk.injEq]
  simp (disch := simp [View.processorSlots]) only [Slots.shownIn_append, Slots.shownIn_cons, and_true,
    and_assoc]
  refine and_congr (displays_some displays_text _ _) ?_
  rw [displays_some displays_word first.view.category second.view.category]
  refine and_congr_right fun same => ?_
  rw [processorSlots_shownIn (kind same)]
  repeat' apply and_congr
  · exact displays_map displays_deprecation _ _
  · exact displays_map displays_text _ _
  · exact displays_some displays_texts _ _
  · exact displays_listed displays_property _ _
  · exact displays_every displays_dynamicProperty _ _
  · exact displays_held _ _
  · exact Iff.rfl
  · exact displays_map displays_stateful _ _
  · exact displays_map displays_restricted _ _
  · exact displays_map displays_word _ _
  · exact displays_every displays_resourceUse _ _
  · exact displays_every displays_useCase _ _
  · exact displays_every displays_multiProcessorUseCase _ _
  · exact displays_every displays_text _ _
  · exact displays_map displays_defaultSchedule _ _
  · exact displays_every displays_serviceApi _ _

/-- Two documents are the same bytes exactly if their requests have equal views, as far as the
format displays them. -/
theorem documents_show_views (format : Format) (options : Options) (first second : Request) :
    first.render format options = second.render format options ↔
      first.view.shownIn format = second.view.shownIn format :=
  (render_eq_iff format options first second).trans (shownIn_content_eq_iff format first second)

def describing (description : Option String) : Request :=
  .ofComponent
    { className := "P", kind := .processor {}, properties := [{ name := "p", description }] }

/-- No view serves both formats: XML has one document for an absent and an empty description of
a property, and JSON has two. -/
theorem no_common_view : ¬ ∃ (Shown : Type) (view : Request → Shown), ∀ format options first second,
    first.render format options = second.render format options ↔ view first = view second := by
  rintro ⟨Shown, view, tells⟩
  have alike : (describing none).content.shownIn .xml = (describing (some "")).content.shownIn .xml :=
    rfl
  have same := (tells .xml {} _ _).mp ((render_eq_iff .xml {} _ _).mpr alike)
  have content := (render_eq_iff .json {} _ _).mp ((tells .json {} _ _).mpr same)
  have views := (shownIn_content_eq_iff .json _ _).mp content
  have descriptions := congrArg (fun shown => shown.properties.map PropertyView.description) views
  exact absurd descriptions (by decide)

end Request

end ComponentDocs
