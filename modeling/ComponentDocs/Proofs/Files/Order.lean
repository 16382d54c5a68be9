import ComponentDocs.Files.Path
import Mathlib.Data.List.Sort

/-! The order of paths. Paths are compared by their parts alone, and an ordered list has no two
paths with the same parts; so it is known by the parts of its paths, whatever the order in which
they were inserted. -/
namespace ComponentDocs.Path

open Std (LawfulEqCmp LawfulEqOrd OrientedCmp ReflCmp TransCmp TransOrd)

namespace Part

instance : TransOrd Part := inferInstanceAs (TransCmp (compareLex (compareOn rank) (compareOn text)))

instance : LawfulEqOrd Part where
  compare_self := ReflCmp.compare_self
  eq_of_compare {first second} same := by
    have same : (compare first.rank second.rank).then (compare first.text second.text) = .eq := same
    obtain ⟨rank, text⟩ := Ordering.then_eq_eq.mp same
    have rank := LawfulEqCmp.eq_of_compare rank
    have text := LawfulEqCmp.eq_of_compare text
    cases first <;> cases second <;> first
      | rfl
      | exact congrArg name text
      | cases rank

end Part

instance : TransOrd Path := inferInstanceAs (TransCmp (compareOn parts))

theorem compare_eq_iff {first second : Path} :
    compare first second = .eq ↔ first.parts = second.parts :=
  LawfulEqOrd.compare_eq_iff_eq (α := List Part)

def Ordered (paths : List Path) : Prop := paths.Pairwise fun first second => compare first second = .lt

section Insertion

variable {path other : Path} {paths : List Path}

theorem mem_of_mem_insert (inside : other ∈ path.insert paths) : other = path ∨ other ∈ paths := by
  induction paths with
  | nil => exact .inl (List.mem_singleton.mp inside)
  | cons first rest ih =>
    rw [insert] at inside
    split at inside
    · exact List.mem_cons.mp inside
    · exact .inr inside
    · rcases List.mem_cons.mp inside with rfl | behind
      · exact .inr List.mem_cons_self
      · exact (ih behind).imp_right (List.mem_cons_of_mem first)

theorem Ordered.insert (ordered : Ordered paths) : Ordered (path.insert paths) := by
  induction paths with
  | nil => exact List.pairwise_singleton _ _
  | cons first rest ih =>
    obtain ⟨least, behind⟩ := List.pairwise_cons.mp ordered
    rw [Path.insert]
    split
    · next before =>
      refine List.pairwise_cons.mpr ⟨fun later inside => ?_, ordered⟩
      rcases List.mem_cons.mp inside with rfl | inside
      · exact before
      · exact TransCmp.lt_trans before (least later inside)
    · exact ordered
    · next after =>
      refine List.pairwise_cons.mpr ⟨fun later inside => ?_, ih behind⟩
      rcases mem_of_mem_insert inside with rfl | inside
      · exact OrientedCmp.lt_of_gt after
      · exact least later inside

theorem parts_insert {parts : List Part} :
    parts ∈ (path.insert paths).map Path.parts ↔ parts = path.parts ∨ parts ∈ paths.map Path.parts := by
  induction paths with
  | nil => rw [insert, List.map_singleton, List.mem_singleton, List.map_nil, or_iff_left List.not_mem_nil]
  | cons first rest ih =>
    rw [insert]
    split
    · rw [List.map_cons, List.mem_cons]
    · next same =>
      rw [compare_eq_iff.mp same, List.map_cons, List.mem_cons, or_self_left]
    · rw [List.map_cons, List.map_cons, List.mem_cons, List.mem_cons, ih, or_left_comm]

end Insertion

def insertAll (more paths : List Path) : List Path := more.foldl (fun paths path => path.insert paths) paths

theorem mem_of_mem_insertAll {more paths : List Path} {path : Path} (inside : path ∈ insertAll more paths) :
    path ∈ more ∨ path ∈ paths := by
  induction more generalizing paths with
  | nil => exact .inr inside
  | cons first more ih =>
    rcases ih inside with later | inside
    · exact .inl (List.mem_cons_of_mem first later)
    · rcases mem_of_mem_insert inside with rfl | inside
      · exact .inl List.mem_cons_self
      · exact .inr inside

theorem Ordered.insertAll {more paths : List Path} (ordered : Ordered paths) :
    Ordered (insertAll more paths) := by
  induction more generalizing paths with
  | nil => exact ordered
  | cons first more ih => exact ih ordered.insert

theorem parts_insertAll {more paths : List Path} {parts : List Part} :
    parts ∈ (insertAll more paths).map Path.parts ↔
      parts ∈ more.map Path.parts ∨ parts ∈ paths.map Path.parts := by
  induction more generalizing paths with
  | nil => rw [insertAll, List.foldl_nil, List.map_nil, or_iff_right List.not_mem_nil]
  | cons first more ih =>
    rw [insertAll, List.foldl_cons, ← insertAll, ih, parts_insert, List.map_cons, List.mem_cons,
      or_assoc, or_left_comm]

theorem Ordered.parts_eq {first second : List Path} (ordered : Ordered first) (other : Ordered second)
    (same : ∀ parts, parts ∈ first.map Path.parts ↔ parts ∈ second.map Path.parts) :
    first.map Path.parts = second.map Path.parts := by
  let before (left right : List Part) : Prop := compare left right = .lt
  have : Std.Irrefl before := ⟨fun parts less => nomatch ReflCmp.compare_self.symm.trans less⟩
  have : Std.Antisymm before := ⟨fun left right less greater =>
    absurd less (OrientedCmp.not_lt_of_lt greater)⟩
  have increasing {paths : List Path} (ordered : Ordered paths) :
      (paths.map Path.parts).Pairwise before := List.pairwise_map.mpr ordered
  exact (increasing ordered).eq_of_mem_iff (increasing other) same

/-- Lists that agree in parts are the same where the parts have one spelling. -/
theorem eq_of_map_parts {first second : List Path}
    (same : first.map Path.parts = second.map Path.parts)
    (spelled : ∀ path ∈ first, ∀ other ∈ second, path.parts = other.parts → path = other) :
    first = second := by
  induction first generalizing second with
  | nil => exact (List.map_eq_nil_iff.mp same.symm).symm
  | cons path rest ih =>
    cases second with
    | nil => cases same
    | cons other others =>
      obtain ⟨head, tail⟩ := List.cons.inj same
      rw [spelled path List.mem_cons_self other List.mem_cons_self head,
        ih tail fun path inside other there =>
          spelled path (List.mem_cons_of_mem _ inside) other (List.mem_cons_of_mem _ there)]

end ComponentDocs.Path
