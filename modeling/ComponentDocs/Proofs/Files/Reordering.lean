import ComponentDocs.Files.Search
import ComponentDocs.Proofs.Files.Holding

/-! The order in which directories list their entries. Another order changes no place, nothing
that a place holds, and none of the paths that a pattern stands for. -/
namespace ComponentDocs

open FileTree (Place)

namespace FileTree

/-- The same entries, in another order there and in the directories among them. Entries change
places when their names are different, as those of one directory are. -/
inductive Reorders : List (String × FileTree) → List (String × FileTree) → Prop
  | refl (entries : List (String × FileTree)) : Reorders entries entries
  | swap {first second : String × FileTree} (different : first.1 ≠ second.1)
      (rest : List (String × FileTree)) : Reorders (first :: second :: rest) (second :: first :: rest)
  | behind {before after : List (String × FileTree)} (entry : String × FileTree)
      (others : Reorders before after) : Reorders (entry :: before) (entry :: after)
  | within {before after : List (String × FileTree)} (name : String) (inner : Reorders before after)
      (rest : List (String × FileTree)) :
      Reorders ((name, .directory before) :: rest) ((name, .directory after) :: rest)
  | trans {first second third : List (String × FileTree)} (early : Reorders first second)
      (late : Reorders second third) : Reorders first third

theorem Reorders.symm {before after : List (String × FileTree)} (reorders : Reorders before after) :
    Reorders after before := by
  induction reorders with
  | refl => exact .refl _
  | swap different rest => exact .swap different.symm rest
  | behind entry _ ih => exact .behind entry ih
  | within name _ rest ih => exact .within name ih rest
  | trans _ _ early late => exact late.trans early

/-- The same file, or directories that differ in the order of entries. -/
inductive Alike : FileTree → FileTree → Prop
  | file (content : ByteArray) : Alike (.file content) (.file content)
  | directory {before after : List (String × FileTree)} (reorders : Reorders before after) :
      Alike (.directory before) (.directory after)

namespace Alike

theorem refl : (tree : FileTree) → Alike tree tree
  | .file content => .file content
  | .directory entries => .directory (.refl entries)

theorem trans {first second third : FileTree} (early : Alike first second) (late : Alike second third) :
    Alike first third := by
  cases early with
  | file => exact late
  | directory early =>
    cases late with
    | directory late => exact .directory (early.trans late)

theorem symm {first second : FileTree} (alike : Alike first second) : Alike second first := by
  cases alike with
  | file => exact .file _
  | directory reorders => exact .directory reorders.symm

theorem rel_trans {first second third : Option FileTree} (early : Option.Rel Alike first second)
    (late : Option.Rel Alike second third) : Option.Rel Alike first third := by
  cases early with
  | none => exact late
  | some early =>
    cases late with
    | some late => exact .some (early.trans late)

end Alike

theorem Reorders.lookup {before after : List (String × FileTree)} (reorders : Reorders before after)
    (name : String) : Option.Rel Alike (before.lookup name) (after.lookup name) := by
  have refl : (found : Option FileTree) → Option.Rel Alike found found
    | none => .none
    | some tree => .some (.refl tree)
  induction reorders with
  | refl => exact refl _
  | @swap first second different rest =>
    obtain ⟨first, tree⟩ := first
    obtain ⟨second, other⟩ := second
    simp only [lookup_entry]
    by_cases same : name = first
    · have other : name ≠ second := fun also => different (same.symm.trans also)
      simp only [if_pos same, if_neg other]
      exact refl _
    · simp only [if_neg same]
      exact refl _
  | behind entry _ ih =>
    obtain ⟨first, tree⟩ := entry
    simp only [lookup_entry]
    split
    · exact refl _
    · exact ih
  | within first inner rest =>
    simp only [lookup_entry]
    split
    · exact .some (.directory inner)
    · exact refl _
  | trans _ _ early late => exact Alike.rel_trans early late

namespace Alike

variable {first second : FileTree}

theorem find? (alike : Alike first second) (place : Place) :
    Option.Rel Alike (first.find? place) (second.find? place) := by
  induction place generalizing first second with
  | nil => exact .some alike
  | cons name place ih =>
    cases alike with
    | file => exact .none
    | directory reorders =>
      have found := reorders.lookup name
      simp only [FileTree.find?]
      generalize List.lookup name _ = one at found
      generalize List.lookup name _ = other at found
      cases found with
      | none => exact .none
      | some inner => exact ih inner

theorem holds? (alike : Alike first second) : first.holds? = second.holds? := by
  funext place
  have found := alike.find? place
  rw [FileTree.holds?, FileTree.holds?]
  generalize first.find? place = one, second.find? place = other at found
  cases found with
  | none => rfl
  | some inner => cases inner <;> rfl

end Alike

theorem step_congr {first second : FileTree} (same : first.holds? = second.holds?) (here : Place)
    (piece : List Char) : first.step here piece = second.step here piece := by
  have there := congrFun same here
  rw [holds?, holds?] at there
  unfold step
  simp only [← isSome_holds?, same]
  cases found : first.find? here with
  | none =>
    rw [found] at there
    rw [Option.map_eq_none_iff.mp there.symm]
  | some inner =>
    rw [found] at there
    obtain ⟨outer, other, kind⟩ := Option.map_eq_some_iff.mp there.symm
    rw [other]
    cases inner <;> cases outer <;> first | rfl | cases kind

theorem walk_congr {first second : FileTree} (same : first.holds? = second.holds?)
    (pieces : List (List Char)) (here : Place) : first.walk pieces here = second.walk pieces here := by
  induction pieces generalizing here with
  | nil => rfl
  | cons piece pieces ih =>
    simp only [walk, step_congr same, funext ih]

theorem Reorders.mem_descendantsOf {before after : List (String × FileTree)}
    (reorders : Reorders before after) (here : Path) (entry : String × Path) :
    entry ∈ descendantsOf here before ↔ entry ∈ descendantsOf here after := by
  induction reorders generalizing here with
  | refl => rfl
  | @swap first second =>
    obtain ⟨first, tree⟩ := first
    obtain ⟨second, other⟩ := second
    simp only [descendantsOf, List.mem_cons, List.mem_append, or_left_comm]
  | behind entry _ ih => simp only [descendantsOf, List.mem_cons, List.mem_append, ih]
  | within name _ rest ih => simp only [descendantsOf, descendants, List.mem_cons, List.mem_append, ih]
  | trans _ _ early late => exact (early here).trans (late here)

theorem Alike.mem_descendants {first second : FileTree} (alike : Alike first second) (here : Path)
    (entry : String × Path) : entry ∈ first.descendants here ↔ entry ∈ second.descendants here := by
  cases alike with
  | file => rfl
  | directory reorders => exact reorders.mem_descendantsOf here entry

theorem Reorders.mem_names {before after : List (String × FileTree)} (reorders : Reorders before after)
    (name : String) : name ∈ before.map Prod.fst ↔ name ∈ after.map Prod.fst := by
  induction reorders with
  | refl => rfl
  | swap _ rest => simp only [List.map_cons, List.mem_cons, or_left_comm]
  | behind _ _ ih | within _ _ _ ih => simp only [List.map_cons, List.mem_cons, ih]
  | trans _ _ early late => exact early.trans late

end FileTree

namespace Workspace

/-- The same workspace but for the order in which its directories list their entries. -/
structure Reordered (before after : Workspace) : Prop where
  home : before.home = after.home
  tree : FileTree.Alike before.tree after.tree

namespace Reordered

variable {before after : Workspace} (reordered : before.Reordered after)

include reordered

theorem symm : after.Reordered before := ⟨reordered.home.symm, reordered.tree.symm⟩

theorem place (path : Path) : before.place path = after.place path := by
  have start : before.start path = after.start path := by rw [start, start, reordered.home]
  simp only [Workspace.place, start, funext fun pieces => FileTree.walk_congr reordered.tree.holds? pieces _]

theorem at? (path : Path) : Option.Rel FileTree.Alike (before.at? path) (after.at? path) := by
  rw [Workspace.at?, Workspace.at?, ← reordered.place]
  cases before.place path with
  | error => exact .none
  | ok place => exact reordered.tree.find? place

theorem contains (path : Path) : before.contains path = after.contains path := by
  have found := reordered.at? path
  rw [Workspace.contains, Workspace.contains]
  generalize before.at? path = one, after.at? path = other at found
  cases found <;> rfl

theorem isFile (path : Path) : before.isFile path = after.isFile path := by
  have found := reordered.at? path
  rw [Workspace.isFile, Workspace.isFile]
  generalize before.at? path = one, after.at? path = other at found
  cases found with
  | none => rfl
  | some inner => cases inner <;> rfl

theorem isDirectory (path : Path) : before.isDirectory path = after.isDirectory path := by
  have found := reordered.at? path
  rw [Workspace.isDirectory, Workspace.isDirectory]
  generalize before.at? path = one, after.at? path = other at found
  cases found with
  | none => rfl
  | some inner => cases inner <;> rfl

theorem mem_names (path : Path) (name : String) : name ∈ before.names path ↔ name ∈ after.names path := by
  have found := reordered.at? path
  rw [names, names]
  generalize before.at? path = one, after.at? path = other at found
  cases found with
  | none => rfl
  | some inner =>
    cases inner with
    | file => rfl
    | directory reorders => exact reorders.mem_names name

theorem mem_inside (path : Path) (entry : String × Path) :
    entry ∈ before.inside path ↔ entry ∈ after.inside path := by
  have found := reordered.at? path
  rw [inside, inside]
  generalize before.at? path = one, after.at? path = other at found
  cases found with
  | none => rfl
  | some inner => exact inner.mem_descendants path entry

theorem mem_search (levels : List Pattern.Level) (here path : Path) :
    path ∈ before.search levels here ↔ path ∈ after.search levels here := by
  induction levels, here using search.induct before with
  | case1 => rfl
  | case2 name levels here there leads reached ih =>
    simp only [search, ← reordered.contains, ← reordered.isDirectory]
    rw [if_pos reached, if_pos reached]
    exact ih
  | case3 name levels here there leads missed =>
    simp only [search, ← reordered.contains, ← reordered.isDirectory]
    rw [if_neg missed, if_neg missed]
  | case4 glyphs levels here inside child join =>
    simp only [search, ← reordered.isDirectory, if_pos inside, List.mem_append, List.mem_flatMap,
      List.mem_filter, reordered.mem_names, child, join]
  | case5 glyphs levels here outside =>
    rw [search, search, ← reordered.isDirectory, if_neg outside, if_neg outside]
  | case6 here =>
    simp only [search, List.mem_filter, List.mem_map, reordered.mem_inside, reordered.isDirectory]
  | case7 levels here ih => rwa [search, search]
  | case8 level levels here _ ih =>
    simp only [search, List.mem_flatMap, List.mem_filter, reordered.mem_inside, ih]

theorem mem_matching (pattern : Pattern) (path : Path) :
    path ∈ before.matching pattern ↔ path ∈ after.matching pattern := by
  simp only [matching]
  split
  · rfl
  · rw [List.mem_filter, List.mem_filter, reordered.mem_search, reordered.isFile]

end Reordered

end Workspace

end ComponentDocs
