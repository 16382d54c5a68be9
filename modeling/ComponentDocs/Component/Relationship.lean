/-! Relationships of a processor. A set of relationships keeps declaration order
and never holds two of one name: the first declaration of a name stays. -/
namespace ComponentDocs

structure Relationship where
  name : String := ""
  description : String := ""
  autoTerminated : Bool := false
deriving DecidableEq

structure DynamicRelationship where
  name : String := ""
  description : String := ""
deriving DecidableEq

/-- A flow file attribute that a processor reads or writes. -/
structure AttributeDescriptor where
  name : String := ""
  description : String := ""
deriving DecidableEq

/-- Relationships in declaration order, with distinct names. -/
structure RelationshipSet where
  toList : List Relationship
  distinct : (toList.map Relationship.name).Nodup
deriving DecidableEq

namespace RelationshipSet

def empty : RelationshipSet := ⟨[], List.nodup_nil⟩

instance : Inhabited RelationshipSet := ⟨empty⟩

def get? (set : RelationshipSet) (name : String) : Option Relationship :=
  set.toList.find? fun relationship => relationship.name == name

def contains (set : RelationshipSet) (name : String) : Bool :=
  set.toList.any fun relationship => relationship.name == name

def size (set : RelationshipSet) : Nat := set.toList.length

def isEmpty (set : RelationshipSet) : Bool := set.toList.isEmpty

theorem nodup_append_singleton {set : RelationshipSet} {relationship : Relationship}
    (fresh : set.contains relationship.name = false) :
    ((set.toList ++ [relationship]).map Relationship.name).Nodup := by
  simp only [contains, List.any_eq_false, beq_iff_eq] at fresh
  rw [List.map_append, List.nodup_append]
  refine ⟨set.distinct, by simp, ?_⟩
  intro name member other single equal
  obtain ⟨declared, inSet, rfl⟩ := List.mem_map.mp member
  simp only [List.map_cons, List.map_nil, List.mem_singleton] at single
  exact fresh declared inSet (equal.trans single)

/-- Adds a relationship whose name is free, and says whether it was. A taken
name leaves the set as it is. -/
def insert (set : RelationshipSet) (relationship : Relationship) : Bool × RelationshipSet :=
  if fresh : set.contains relationship.name = false then
    (true, ⟨set.toList ++ [relationship], nodup_append_singleton fresh⟩)
  else
    (false, set)

def ofList (relationships : List Relationship) : RelationshipSet :=
  relationships.foldl (fun set relationship => (set.insert relationship).2) empty

end RelationshipSet

end ComponentDocs
