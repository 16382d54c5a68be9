import ComponentDocs.Proofs.Document.Lookup
import Mathlib.Data.List.Induction
import Mathlib.Data.List.Nodup
import Mathlib.Data.List.Sort

/-! Related components that are named by reference and by name. The two lists are merged into the
one list that has every text of both once, where it comes first, and both documents list just
that. -/
namespace ComponentDocs

/-- Every text of a list once, in the order in which the texts first come. There is one such
list. -/
structure EachOnce (texts merged : List String) : Prop where
  nodup : merged.Nodup
  mem_iff : ∀ text, text ∈ merged ↔ text ∈ texts
  ordered : merged.Pairwise fun first second => texts.idxOf first < texts.idxOf second

namespace EachOnce

variable {texts merged other part : List String}

theorem unique (once : EachOnce texts merged) (again : EachOnce texts other) : merged = other := by
  have order : merged.Perm other := by
    rw [List.perm_ext_iff_of_nodup once.nodup again.nodup]
    intro text
    rw [once.mem_iff, again.mem_iff]
  refine order.eq_of_pairwise ?_ once.ordered again.ordered
  intro first second _ _ before behind
  exact absurd before (Nat.lt_asymm behind)

theorem concat (once : EachOnce texts merged) (text : String) :
    EachOnce (texts ++ [text]) (if text ∈ texts then merged else merged ++ [text]) := by
  have ordered : merged.Pairwise fun first second =>
      (texts ++ [text]).idxOf first < (texts ++ [text]).idxOf second := by
    refine once.ordered.imp_of_mem fun inside there before => ?_
    rwa [List.idxOf_append_of_mem ((once.mem_iff _).mp inside),
      List.idxOf_append_of_mem ((once.mem_iff _).mp there)]
  split
  · next known =>
    refine ⟨once.nodup, fun other => ?_, ordered⟩
    rw [once.mem_iff, List.mem_append, List.mem_singleton, iff_self_or]
    rintro rfl
    exact known
  · next new =>
    refine ⟨?_, fun other => ?_, ?_⟩
    · rw [← List.concat_eq_append, List.nodup_concat, once.mem_iff]
      exact ⟨new, once.nodup⟩
    · rw [List.mem_append, List.mem_append, once.mem_iff]
    · refine List.pairwise_append.mpr ⟨ordered, List.pairwise_singleton _ _, fun first inside last single => ?_⟩
      obtain rfl := List.mem_singleton.mp single
      rw [List.idxOf_append_of_mem ((once.mem_iff _).mp inside), List.idxOf_append_of_notMem new]
      exact Nat.lt_add_right _ (List.idxOf_lt_length_of_mem ((once.mem_iff _).mp inside))

/-- A list without repetitions, followed by texts of its own, comes down to itself. -/
theorem of_nodup (nodup : merged.Nodup) (within : part ⊆ merged) : EachOnce (merged ++ part) merged := by
  refine ⟨nodup, fun text => ?_, ?_⟩
  · rw [List.mem_append, iff_self_or]
    exact fun inside => within inside
  · rw [List.pairwise_iff_getElem]
    intro index later bound bound' before
    rw [List.idxOf_append_of_mem (List.getElem_mem bound), List.idxOf_append_of_mem (List.getElem_mem bound'),
      nodup.idxOf_getElem, nodup.idxOf_getElem]
    exact before

end EachOnce

/-- The induction is from the end of the list, since what is kept depends on what came before. -/
theorem eachOnce_eraseDups (texts : List String) : EachOnce texts texts.eraseDups := by
  induction texts using List.reverseRecOn with
  | nil => exact .of_nodup List.nodup_nil (List.Subset.refl [])
  | append_singleton texts text ih =>
    have next : (texts ++ [text]).eraseDups =
        if text ∈ texts then texts.eraseDups else texts.eraseDups ++ [text] := by
      rw [List.eraseDups_append]
      split <;> simp [List.removeAll, List.eraseDups_cons, *]
    rw [next]
    exact ih.concat text

/-- Of texts merged once more with some of themselves, nothing is different. -/
theorem eraseDups_append_part {texts part : List String} (within : part.Sublist texts.eraseDups) :
    (texts.eraseDups ++ part).eraseDups = texts.eraseDups :=
  (eachOnce_eraseDups _).unique (.of_nodup (eachOnce_eraseDups texts).nodup within.subset)

def Request.replacements (request : Request) : List String :=
  (request.component.deprecationNotice.map DeprecationNotice.merged).getD []

def Request.related (request : Request) : List String :=
  (request.component.seeAlso.map SeeAlso.merged).getD []

/-- What a JSON document lists under `alternatives`. -/
def Json.replacements (document : Json) : List Json :=
  ((document.under "deprecationNotice").flatMap (under "alternatives")).flatMap items

/-- What a JSON document lists under `seeAlso`. -/
def Json.related (document : Json) : List Json := (document.under "seeAlso").flatMap items

/-- What an XML document lists under `alternatives`. -/
def Markup.Node.replacements (root : Markup.Node) : List Markup.Node :=
  ((root.under "deprecationNotice").flatMap (under "alternatives")).flatMap elements

/-- What an XML document lists under `seeAlso`. -/
def Markup.Node.related (root : Markup.Node) : List Markup.Node := (root.under "seeAlso").flatMap elements

namespace Request

open Content (listed present texts)
open Markup (Node)

theorem alternatives_view (notice : DeprecationNotice) : notice.view.alternatives = notice.merged :=
  (eraseDups_eq_firstOccurrences _).symm

theorem seeAlso_view (request : Request) : request.view.seeAlso = request.related := by
  rw [view, related]
  cases request.component.seeAlso with
  | none => rfl
  | some references => exact (eraseDups_eq_firstOccurrences _).symm

theorem values_deprecationNotice (request : Request) :
    Json.values "deprecationNotice" (present request.view.slots) =
      (request.component.deprecationNotice.map fun notice => notice.view.content).toList := by
  refine Content.values_present request.view.slots_names_nodup ?_
  have place : ("deprecationNotice", request.view.deprecation.map DeprecationView.content) ∈ request.view.slots :=
    List.mem_append_left _ (List.mem_append_left _ (List.mem_append_left _
      (List.mem_cons_of_mem _ (List.mem_cons_of_mem _ List.mem_cons_self))))
  rw [view, Option.map_map] at place
  exact place

theorem values_seeAlso (request : Request) :
    Json.values "seeAlso" (present request.view.slots) = (listed "see" .text request.related).toList := by
  refine Content.values_present request.view.slots_names_nodup ?_
  have place : ("seeAlso", listed "see" .text request.view.seeAlso) ∈ request.view.slots := by
    simp only [View.slots, List.mem_append]
    exact .inl (.inr (by simp only [List.mem_cons, true_or, or_true]))
  rwa [seeAlso_view] at place

/-- The reason of a deprecation does not stand under the name of its list. -/
theorem values_alternatives (reason list : Content) :
    Json.values "alternatives" [("reason", reason), ("alternatives", list)] = [list] := rfl

theorem replacements_json (request : Request) :
    request.content.json.replacements = request.replacements.map .string := by
  rw [Json.replacements, content, View.content, Content.under_json, values_deprecationNotice, replacements]
  cases request.component.deprecationNotice with
  | none => rfl
  | some notice =>
    simp only [Option.map_some, Option.toList_some, List.map_singleton, List.flatMap_singleton,
      DeprecationView.content, Content.under_json, values_alternatives, texts, Content.items_json,
      alternatives_view, List.map_map, Option.getD_some]
    rfl

theorem related_json (request : Request) : request.content.json.related = request.related.map .string := by
  rw [Json.related, content, View.content, Content.under_json, values_seeAlso]
  cases request.related with
  | nil => rfl
  | cons first others =>
    simp only [listed, Option.toList_some, List.map_singleton, List.flatMap_singleton, Content.items_json, List.map_map]
    rfl

theorem replacements_xml (request : Request) (options : Options) :
    (request.content.element (rootMargin options) "extension").replacements =
      request.replacements.map (Node.leaf "alternative") := by
  rw [Node.replacements, content, View.content, Content.under_element, values_deprecationNotice, replacements]
  cases request.component.deprecationNotice with
  | none => rfl
  | some notice =>
    simp only [Option.map_some, Option.toList_some, List.map_singleton, List.flatMap_singleton,
      DeprecationView.content, Content.under_element, values_alternatives, texts, Content.elements_list,
      alternatives_view, List.map_map, Option.getD_some]
    rfl

theorem related_xml (request : Request) (options : Options) :
    (request.content.element (rootMargin options) "extension").related =
      request.related.map (Node.leaf "see") := by
  rw [Node.related, content, View.content, Content.under_element, values_seeAlso]
  cases request.related with
  | nil => rfl
  | cons first others =>
    simp only [listed, Option.toList_some, List.map_singleton, List.flatMap_singleton, Content.elements_list, List.map_map]
    rfl

end Request

/-- References and names are merged into the one list that has no text twice, has the texts of
both, and has them in the order in which they first come in the references and the names behind
them. Some texts of the merged list, merged into it once more, are absorbed. Both documents of a
request list just the merged replacements and the merged related components, in their order. -/
theorem merged_lists_shown (reason : String) (references names : List String) :
    let notice : DeprecationNotice := { reason, alternatives := references, classNames := names }
    let seeAlso : SeeAlso := { classes := references, classNames := names }
    (∀ list, EachOnce (references ++ names) list ↔ list = notice.merged) ∧
      (∀ list, EachOnce (references ++ names) list ↔ list = seeAlso.merged) ∧
      (∀ part, part.Sublist notice.merged →
        ({ reason, alternatives := notice.merged, classNames := part } : DeprecationNotice).merged = notice.merged) ∧
      (∀ part, part.Sublist seeAlso.merged →
        ({ classes := seeAlso.merged, classNames := part } : SeeAlso).merged = seeAlso.merged) ∧
      ∀ (request : Request) options, ∃ json document xml root,
        request.render .json options = .ok (Sink.bytesOf json) ∧
        Json.parse (String.ofList json) = .ok document ∧
        request.render .xml options = .ok (Sink.bytesOf (Request.prologue options ++ xml)) ∧
        Markup.read xml = some (false, root) ∧
        document.replacements = request.replacements.map .string ∧
        root.replacements = request.replacements.map (Markup.Node.leaf "alternative") ∧
        document.related = request.related.map .string ∧
        root.related = request.related.map (Markup.Node.leaf "see") := by
  intro notice seeAlso
  have once := eachOnce_eraseDups (references ++ names)
  have only (list : List String) :
      EachOnce (references ++ names) list ↔ list = (references ++ names).eraseDups :=
    ⟨fun other => other.unique once, fun same => same ▸ once⟩
  refine ⟨only, only, fun _ => eraseDups_append_part, fun _ => eraseDups_append_part, fun request options => ?_⟩
  obtain ⟨json, xml, rendered, parsed, written, read⟩ := request.documents_read options
  exact ⟨json, _, xml, _, rendered, parsed, written, read, request.replacements_json,
    request.replacements_xml options, request.related_json, request.related_xml options⟩

end ComponentDocs
