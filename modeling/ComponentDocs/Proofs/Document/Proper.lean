import ComponentDocs.Proofs.Document.Layout
import ComponentDocs.Proofs.Json.RoundTrip

/-! Content that both formats can carry without loss: its names are names, its records hold
members with distinct names, its counts have 64 bits, it is not nested too deeply, and the
items of a list have the name that goes with the name of the list. -/
namespace ComponentDocs

open Markup (Margin Node blanks inner)

/-- The names of lists beside the names of their items. -/
def singulars : List (String × String) :=
  [("tags", "tag"),
   ("properties", "property"),
   ("allowableValues", "allowableValue"),
   ("resourceTypes", "resourceType"),
   ("dependencies", "dependency"),
   ("dependentValues", "dependentValue"),
   ("dynamicProperties", "dynamicProperty"),
   ("relationships", "relationship"),
   ("readsAttributes", "readsAttribute"),
   ("writesAttributes", "writesAttribute"),
   ("alternatives", "alternative"),
   ("scopes", "scope"),
   ("restrictions", "restriction"),
   ("systemResourceConsiderations", "systemResourceConsideration"),
   ("useCases", "useCase"),
   ("keywords", "keyword"),
   ("multiProcessorUseCases", "multiProcessorUseCase"),
   ("processorConfigurations", "processorConfiguration"),
   ("seeAlso", "see"),
   ("providedServiceAPIs", "providedServiceAPI")]

/-- The name of the items of a list. -/
def singular (name : String) : String := (singulars.lookup name).getD name

namespace Content

/-- Content under a name that is nested in at most so many lists and records. -/
inductive Proper : Nat → String → Content → Prop
  | text {levels name value} : Proper levels name (.text value)
  | missing {levels name} : Proper levels name .missing
  | flag {levels name value} : Proper levels name (.flag value)
  | count {levels name value} (bound : value < UInt64.size) : Proper levels name (.count value)
  | record {levels name members} (inhabited : members ≠ []) (distinct : (members.map Prod.fst).Nodup)
      (named : ∀ member ∈ members, Markup.isName member.1.toList)
      (inside : ∀ member ∈ members, Proper levels member.1 member.2) :
      Proper (levels + 1) name (.record members)
  | list {levels name items} (named : Markup.isName (singular name).toList)
      (inside : ∀ content ∈ items, Proper levels (singular name) content) :
      Proper (levels + 1) name (.list (singular name) items)

namespace Proper

theorem plain {levels : Nat} {name : String} {content : Content}
    (proper : content.Proper levels name) : content.json.Plain levels := by
  induction proper with
  | text | missing | flag => simp only [json, Json.Plain]
  | count bound => simpa only [json, Json.ofNat, Json.Plain] using bound
  | record _ distinct _ _ ih =>
    simp only [json, Json.Plain, jsonMembers_names]
    refine ⟨distinct, ?_⟩
    rw [jsonMembers_eq_map]
    intro shown there
    obtain ⟨member, inside, rfl⟩ := List.mem_map.mp there
    exact ih member inside
  | list _ _ ih =>
    simp only [json, Json.Plain, jsonItems_eq_map]
    intro shown there
    obtain ⟨content, inside, rfl⟩ := List.mem_map.mp there
    exact ih content inside

end Proper

theorem allNamed_nodes {levels : Nat} {name : String} {content : Content}
    (proper : content.Proper levels name) (margin : Option Margin) :
    Node.AllNamed (content.nodes margin) := by
  induction proper generalizing margin with
  | text | missing | flag | count => exact Node.allNamed_ofText _
  | record _ _ named _ ih =>
    rw [nodes, memberNodes_eq, Node.allNamed_append]
    refine ⟨Markup.allNamed_spaced _ fun node there => ?_, Markup.allNamed_blanks margin⟩
    obtain ⟨member, inside, rfl⟩ := List.mem_map.mp there
    exact ⟨named member inside, ih member inside _⟩
  | @list _ _ items named _ ih =>
    cases items with
    | nil => exact Node.allNamed_ofText _
    | cons first items =>
      rw [nodes, itemNodes_eq, Node.allNamed_append]
      refine ⟨Markup.allNamed_spaced _ fun node there => ?_, Markup.allNamed_blanks margin⟩
      obtain ⟨content, inside, rfl⟩ := List.mem_map.mp there
      exact ⟨named, ih content inside _⟩

theorem trimAll_nodes {levels : Nat} {name : String} {content : Content}
    (proper : content.Proper levels name) (margin : Option Margin) :
    Node.trimmed (content.nodes margin) = content.nodes none := by
  induction proper generalizing margin with
  | text | missing | flag | count => exact Node.trimmed_ofText _
  | @record _ _ members inhabited _ _ _ ih =>
    rw [nodes, memberNodes_eq,
      Markup.trimmed_spaced (by simpa using inhabited) (List.forall_mem_map.mpr fun _ _ => rfl),
      nodes_record, List.map_map]
    refine List.map_congr_left fun member inside => ?_
    exact congrArg (Node.element member.1) (ih member inside _)
  | @list _ _ items named _ ih =>
    cases items with
    | nil => exact Node.trimmed_ofText _
    | cons first items =>
      rw [nodes, itemNodes_eq, Markup.trimmed_spaced (by simp) (List.forall_mem_map.mpr fun _ _ => rfl),
        nodes_list, List.map_map]
      refine List.map_congr_left fun content inside => ?_
      exact congrArg (Node.element _) (ih content inside _)

end Content

end ComponentDocs
