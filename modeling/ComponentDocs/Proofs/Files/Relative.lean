import ComponentDocs.Files.Search
import ComponentDocs.Proofs.Files.Pattern
import ComponentDocs.Proofs.Files.Writing

/-! Relative paths. Without `..` in it, a relative path spells out the names that lead to its place,
so two of them that lead to one place differ at most in a `.` at the beginning. Relative patterns
stand for relative paths. -/
namespace ComponentDocs

open FileTree (IsName Place)

namespace Path

def IsRelative (path : Path) : Prop := path.text.toList.head? ≠ some '/'

theorem Part.ofPiece?_of_isName {piece : List Char} (named : IsName piece) :
    ofPiece? piece = some (.name (String.ofList piece)) := by
  obtain ⟨filled, notHere, notUp⟩ := named
  unfold ofPiece?
  split
  · exact absurd rfl filled
  · exact absurd rfl notHere
  · exact absurd rfl notUp
  · rfl

theorem Part.ofPiece?_ne_current (piece : List Char) : ofPiece? piece ≠ some .current := by
  unfold ofPiece?
  split <;> simp

theorem Part.eq_of_ofPiece?_parent {piece : List Char} (up : ofPiece? piece = some .parent) :
    piece = ['.', '.'] := by
  unfold ofPiece? at up
  split at up <;> first | rfl | cases up

theorem IsRelative.parts_eq {path : Path} (relative : path.IsRelative) :
    path.parts = (if path.pieces.head? = some ['.'] then [.current] else []) ++
      path.pieces.filterMap Part.ofPiece? := by
  rw [IsRelative] at relative
  rw [parts, pieces]
  split
  · next spelled =>
    rw [spelled] at relative
    exact absurd rfl relative
  · split
    · next dotted =>
      rw [dotted]
      rfl
    · next other =>
      have notDot : (Text.split '/' path.text.toList).head? ≠ some ['.'] := by
        intro dotted
        obtain ⟨rest, dotted⟩ := List.head?_eq_some_iff.mp dotted
        exact other rest dotted
      rw [if_neg notDot, List.nil_append]

theorem IsRelative.current_mem {path : Path} (relative : path.IsRelative) :
    .current ∈ path.parts ↔ path.pieces.head? = some ['.'] := by
  have inside : .current ∉ path.pieces.filterMap Part.ofPiece? := by
    rw [List.mem_filterMap]
    rintro ⟨piece, -, current⟩
    exact Part.ofPiece?_ne_current piece current
  rw [relative.parts_eq, List.mem_append, or_iff_left inside]
  split
  · next dotted => exact iff_of_true (List.mem_singleton.mpr rfl) dotted
  · next plain => exact iff_of_false List.not_mem_nil plain

end Path

theorem FileTree.walk_names {tree : FileTree} {pieces : List (List Char)} {here there : Place}
    (down : .parent ∉ pieces.filterMap Path.Part.ofPiece?) (walked : tree.walk pieces here = .ok there) :
    ∃ names, pieces.filterMap Path.Part.ofPiece? = names.map Path.Part.name ∧ there = here ++ names := by
  induction pieces generalizing here with
  | nil =>
    cases walked
    exact ⟨[], rfl, (List.append_nil _).symm⟩
  | cons piece pieces ih =>
    rw [walk] at walked
    cases taken : tree.step here piece with
    | error error =>
      rw [taken] at walked
      cases walked
    | ok next =>
      rw [taken] at walked
      obtain ⟨-, ⟨rfl | rfl, rfl⟩ | ⟨rfl, -⟩ | ⟨named, -, -, rfl⟩⟩ := step_cases taken
      · exact ih down walked
      · exact ih down walked
      · exact absurd List.mem_cons_self down
      · rw [List.filterMap_cons_some (Path.Part.ofPiece?_of_isName named)] at down ⊢
        obtain ⟨names, spelled, rfl⟩ := ih (mt (List.mem_cons_of_mem _) down) walked
        exact ⟨String.ofList piece :: names, by rw [spelled, List.map_cons], by simp⟩

namespace Workspace

/-- Relative paths that lead to one place and do not go up have the same parts, if both or neither
begin with a `.`. -/
theorem parts_of_place {workspace : Workspace} {first second : Path} {place : Place}
    (relative : first.IsRelative) (relative' : second.IsRelative)
    (down : .parent ∉ first.parts) (down' : .parent ∉ second.parts)
    (current : .current ∈ first.parts ↔ .current ∈ second.parts)
    (placed : workspace.place first = .ok place) (placed' : workspace.place second = .ok place) :
    first.parts = second.parts := by
  have spelled {path : Path} (relative : path.IsRelative) (down : .parent ∉ path.parts)
      (placed : workspace.place path = .ok place) :
      ∃ names, path.pieces.filterMap Path.Part.ofPiece? = names.map Path.Part.name ∧
        place = workspace.home ++ names := by
    have walked := walk_of_place placed
    rw [start, if_neg relative] at walked
    rw [relative.parts_eq] at down
    exact FileTree.walk_names (mt (List.mem_append_right _) down) walked
  obtain ⟨names, known, here⟩ := spelled relative down placed
  obtain ⟨names', known', there⟩ := spelled relative' down' placed'
  obtain rfl : names = names' := List.append_cancel_left (here.symm.trans there)
  rw [relative.current_mem, relative'.current_mem] at current
  simp only [relative.parts_eq, relative'.parts_eq, known, known', current]

end Workspace

namespace Path

section Join

variable {path : Path} {name : String}

theorem IsPlain.head? (plain : IsPlain name) : name.toList.head? ≠ some '/' :=
  fun begins => plain.2 (List.mem_of_head? begins)

theorem IsRelative.join (relative : path.IsRelative) (inner : name.toList.head? ≠ some '/') :
    (path.join name).IsRelative := by
  by_cases spelled : path.text = ""
  · rw [Path.join, spelled]
    exact inner
  · rw [IsRelative, head?_join name spelled]
    exact relative

theorem IsRelative.child (relative : path.IsRelative) (inner : name.toList.head? ≠ some '/') :
    (path.child name).IsRelative := by
  rw [Path.child]
  split
  · exact inner
  · exact relative.join inner

/-- A piece that does not stand for the directory that it is in, nor for the one above. -/
def IsOnward (piece : List Char) : Prop := piece ≠ ['.'] ∧ piece ≠ ['.', '.']

theorem isOnward_of_head? {piece : List Char} (dotless : piece.head? ≠ some '.') : IsOnward piece := by
  constructor <;>
  · rintro rfl
    exact dotless rfl

def IsStraight (path : Path) : Prop := ∀ piece ∈ path.pieces, IsOnward piece

theorem pieces_of_name (inner : '/' ∉ name.toList) : pieces ⟨name⟩ = [name.toList] :=
  Text.split_of_not_mem inner

theorem isStraight_of_name (inner : '/' ∉ name.toList) (onward : IsOnward name.toList) :
    IsStraight ⟨name⟩ := by
  intro piece inside
  rw [pieces_of_name inner] at inside
  exact List.mem_singleton.mp inside ▸ onward

theorem IsStraight.join (straight : path.IsStraight) (inner : '/' ∉ name.toList)
    (onward : IsOnward name.toList) : (path.join name).IsStraight := by
  by_cases spelled : path.text = ""
  · rw [Path.join, spelled]
    exact isStraight_of_name inner onward
  · obtain ⟨front, joined, parted⟩ := pieces_join spelled inner
    intro piece inside
    rw [joined] at inside
    rcases List.mem_append.mp inside with before | last
    · refine straight piece ?_
      rcases parted with same | ended
      · exact same ▸ before
      · exact ended ▸ List.mem_append_left _ before
    · exact List.mem_singleton.mp last ▸ onward

theorem isStraight_child (start : path = ⟨"."⟩ ∨ path.IsStraight) (inner : '/' ∉ name.toList)
    (onward : IsOnward name.toList) : (path.child name).IsStraight := by
  rw [Path.child]
  split
  · exact isStraight_of_name inner onward
  · next other =>
    rcases start with rfl | straight
    · exact absurd rfl other
    · exact straight.join inner onward

theorem IsStraight.no_parent (straight : path.IsStraight) (relative : path.IsRelative) :
    .parent ∉ path.parts := by
  rw [relative.parts_eq, List.mem_append]
  rintro (dotted | inside)
  · split at dotted
    · cases List.mem_singleton.mp dotted
    · cases dotted
  · obtain ⟨piece, there, up⟩ := List.mem_filterMap.mp inside
    exact (straight piece there).2 (Part.eq_of_ofPiece?_parent up)

theorem IsStraight.no_current (straight : path.IsStraight) (relative : path.IsRelative) :
    .current ∉ path.parts := by
  rw [relative.current_mem]
  intro dotted
  exact (straight _ (List.mem_of_head? dotted)).1 rfl

end Join

end Path

namespace FileTree

mutual

/-- Every name in a tree is that of one thing in a directory. -/
def HasPlainNames : FileTree → Prop
  | .file _ => True
  | .directory entries => HavePlainNames entries

def HavePlainNames : List (String × FileTree) → Prop
  | [] => True
  | (name, tree) :: entries => Path.IsPlain name ∧ tree.HasPlainNames ∧ HavePlainNames entries

end

theorem HavePlainNames.of_mem {entries : List (String × FileTree)} (plain : HavePlainNames entries)
    {entry : String × FileTree} (inside : entry ∈ entries) :
    Path.IsPlain entry.1 ∧ entry.2.HasPlainNames := by
  induction entries with
  | nil => cases inside
  | cons first entries ih =>
    obtain ⟨named, inner, others⟩ := plain
    rcases List.mem_cons.mp inside with rfl | behind
    · exact ⟨named, inner⟩
    · exact ih others behind

theorem HasPlainNames.find? {tree inner : FileTree} {place : Place} (plain : tree.HasPlainNames)
    (found : tree.find? place = some inner) : inner.HasPlainNames := by
  induction place generalizing tree with
  | nil =>
    cases found
    exact plain
  | cons name place ih =>
    cases tree with
    | file => cases found
    | directory entries =>
      rw [FileTree.find?] at found
      cases there : entries.lookup name with
      | none =>
        rw [there] at found
        cases found
      | some below =>
        rw [there] at found
        obtain ⟨before, behind, rfl, -⟩ := List.lookup_eq_some_iff.mp there
        have inside : (name, below) ∈ before ++ (name, below) :: behind :=
          List.mem_append_right _ List.mem_cons_self
        exact ih (HavePlainNames.of_mem plain inside).2 found

section Search

variable {starts holds : Path → Prop}

mutual

theorem descendants_hold (again : ∀ path, holds path → starts path)
    (child : ∀ here name, starts here → Path.IsPlain name → holds (here.child name)) {tree : FileTree}
    (plain : tree.HasPlainNames) {here : Path} (start : starts here) :
    ∀ entry ∈ tree.descendants here, holds entry.2 := by
  cases tree with
  | file => exact nofun
  | directory entries => exact descendantsOf_hold again child plain start

theorem descendantsOf_hold (again : ∀ path, holds path → starts path)
    (child : ∀ here name, starts here → Path.IsPlain name → holds (here.child name))
    {entries : List (String × FileTree)} (plain : HavePlainNames entries) {here : Path}
    (start : starts here) : ∀ entry ∈ descendantsOf here entries, holds entry.2 := by
  cases entries with
  | nil => exact nofun
  | cons first entries =>
    obtain ⟨named, inner, others⟩ := plain
    have below := child here _ start named
    rw [descendantsOf]
    simp only [List.mem_cons, List.mem_append]
    rintro entry (rfl | inside | behind)
    · exact below
    · exact descendants_hold again child inner (again _ below) entry inside
    · exact descendantsOf_hold again child others start entry behind

end

end Search

end FileTree

namespace Workspace

variable {workspace : Workspace}

theorem names_plain (plain : workspace.tree.HasPlainNames) {path : Path} {name : String}
    (listed : name ∈ workspace.names path) : Path.IsPlain name := by
  rw [names] at listed
  split at listed
  · next entries found =>
    rw [at?] at found
    split at found
    · obtain ⟨entry, inside, rfl⟩ := List.mem_map.mp listed
      have inner : FileTree.HavePlainNames entries := plain.find? found
      exact (inner.of_mem inside).1
    · cases found
  · cases listed

/-- From where `starts` holds, a search by some levels goes on to where `holds` does, and on. -/
structure Keeps (levels : List Pattern.Level) (starts holds : Path → Prop) : Prop where
  again : ∀ path, holds path → starts path
  listed : ∀ here name, starts here → Path.IsPlain name → holds (here.child name)
  literal : ∀ here name, starts here → .literal name ∈ levels → holds (here.child name)
  dots : ∀ here glyphs, starts here → .wild glyphs ∈ levels → glyphs.head? = some (.exactly '.') →
    ∀ name ∈ [".", ".."], holds (here.join name)

section Search

variable {starts holds : Path → Prop} {level : Pattern.Level} {levels : List Pattern.Level}

theorem Keeps.tail (keeps : Keeps (level :: levels) starts holds) : Keeps levels starts holds where
  again := keeps.again
  listed := keeps.listed
  literal here name start inside := keeps.literal here name start (List.mem_cons_of_mem _ inside)
  dots here glyphs start inside := keeps.dots here glyphs start (List.mem_cons_of_mem _ inside)

theorem inside_holds (plain : workspace.tree.HasPlainNames) (keeps : Keeps levels starts holds)
    {here : Path} (start : starts here) : ∀ entry ∈ workspace.inside here, holds entry.2 := by
  rw [inside]
  split
  · next tree found =>
    rw [at?] at found
    split at found
    · exact FileTree.descendants_hold keeps.again keeps.listed (plain.find? found) start
    · cases found
  · exact List.forall_mem_nil _

/-- What a search keeps, all that it finds has, and so has what it finds at once. -/
theorem search_holds (plain : workspace.tree.HasPlainNames) {here : Path}
    (keeps : Keeps levels starts holds) (start : starts here) (atOnce : levels = [] → holds here) :
    ∀ path ∈ workspace.search levels here, holds path := by
  induction levels, here using search.induct workspace with
  | case1 here =>
    intro path inside
    rw [search] at inside
    exact List.mem_singleton.mp inside ▸ atOnce rfl
  | case2 name levels here there leads reached ih =>
    simp only [search]
    rw [if_pos reached]
    have below := keeps.literal here name start List.mem_cons_self
    exact ih keeps.tail (keeps.again _ below) fun _ => below
  | case3 name levels here there leads missed =>
    simp only [search]
    rw [if_neg missed]
    exact nofun
  | case4 glyphs levels here inside child join =>
    intro path found
    simp only [search, if_pos inside, List.mem_append, List.mem_flatMap, List.mem_filter] at found
    rcases found with ⟨name, ⟨listed, -⟩, found⟩ | ⟨name, ⟨dots, -⟩, found⟩
    · have below := keeps.listed here name start (names_plain plain listed)
      exact child name keeps.tail (keeps.again _ below) (fun _ => below) path found
    · split at dots
      · next dotted =>
        have below := keeps.dots here glyphs start List.mem_cons_self dotted name dots
        exact join name keeps.tail (keeps.again _ below) (fun _ => below) path found
      · cases dots
  | case5 glyphs levels here outside =>
    rw [search, if_neg outside]
    exact nofun
  | case6 here =>
    intro path found
    simp only [search, List.mem_filter, List.mem_map] at found
    obtain ⟨⟨entry, below, rfl⟩, -⟩ := found
    exact inside_holds plain keeps start entry below
  | case7 levels here ih =>
    rw [search]
    exact ih keeps.tail start nofun
  | case8 level levels here _ ih =>
    intro path found
    simp only [search, List.mem_flatMap, List.mem_filter] at found
    obtain ⟨entry, ⟨below, -⟩, found⟩ := found
    have below := inside_holds plain keeps start entry below
    exact ih entry keeps.tail.tail (keeps.again _ below) (fun _ => below) path found

theorem matching_holds (plain : workspace.tree.HasPlainNames) {text : String} {pattern : Pattern}
    (relative : Path.IsRelative ⟨text⟩) (read : Pattern.read text = .ok pattern)
    (keeps : Keeps pattern.levels starts holds) (start : starts ⟨"."⟩) :
    ∀ path ∈ workspace.matching pattern, holds path := by
  obtain ⟨fromHome, some, -⟩ := Pattern.levels_of_read read relative
  intro path found
  rw [matching] at found
  split at found
  · cases found
  · rw [fromHome] at found
    exact search_holds plain keeps start (absurd · some) path (List.mem_filter.mp found).1

end Search

section Matching

variable {text : String} {pattern : Pattern}

theorem matching_relative (plain : workspace.tree.HasPlainNames) (relative : Path.IsRelative ⟨text⟩)
    (read : Pattern.read text = .ok pattern) : ∀ path ∈ workspace.matching pattern, path.IsRelative := by
  obtain ⟨-, -, levels⟩ := Pattern.levels_of_read read relative
  refine matching_holds plain relative read ⟨fun _ => id, ?_, ?_, ?_⟩ ?_
  · exact fun here name relative plain => relative.child plain.head?
  · intro here name relative inside
    obtain ⟨piece, there, literal⟩ := levels _ inside
    refine relative.child fun begins => Text.not_mem_split there ?_
    exact Pattern.Level.eq_of_literal literal ▸ List.mem_of_head? begins
  · intro here glyphs relative _ _ name dots
    simp only [List.mem_cons, List.not_mem_nil, or_false] at dots
    rcases dots with rfl | rfl <;> exact relative.join (by decide)
  · rw [Path.IsRelative]
    decide

theorem matching_straight (plain : workspace.tree.HasPlainNames) (relative : Path.IsRelative ⟨text⟩)
    (read : Pattern.read text = .ok pattern)
    (dotless : ∀ piece ∈ Path.pieces ⟨text⟩, piece.head? ≠ some '.') :
    ∀ path ∈ workspace.matching pattern, path.IsStraight := by
  obtain ⟨-, -, levels⟩ := Pattern.levels_of_read read relative
  suffices keeps : Keeps pattern.levels (fun path => path = ⟨"."⟩ ∨ path.IsStraight) Path.IsStraight from
    matching_holds plain relative read keeps (.inl rfl)
  refine ⟨fun _ => .inr, ?_, ?_, ?_⟩
  · intro here name start plain
    exact Path.isStraight_child start plain.2 plain.1.2
  · intro here name start inside
    obtain ⟨piece, there, literal⟩ := levels _ inside
    have same := Pattern.Level.eq_of_literal literal
    exact Path.isStraight_child start (same ▸ Text.not_mem_split there)
      (same ▸ Path.isOnward_of_head? (dotless piece there))
  · intro here glyphs _ inside dotted
    obtain ⟨piece, there, wild⟩ := levels _ inside
    exact absurd (Pattern.Level.head?_of_wild wild dotted) (dotless piece there)

end Matching

end Workspace

end ComponentDocs
