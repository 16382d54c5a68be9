import ComponentDocs.Proofs.Files.Parts

/-! Searches that go down by names alone. However they spell the paths on the way, they come to the
place that a walk by the names comes to, and their spelling is no longer than the names with slashes
between them. -/
namespace ComponentDocs

open FileTree (Place)

namespace Path

def lead (here : Path) : String := (here.child "").text

/-- The path of a search that goes down by some names. -/
def descend (names : List (List Char)) (here : Path) : Path :=
  names.foldl (fun here name => here.child (String.ofList name)) here

/-- How a search spells a directory that it comes to by names. -/
def respelled (directory : Path) : Path :=
  descend directory.steps ⟨if directory.text.toList.head? = some '/' then "/" else "."⟩

/-- A search from `.` by these names is stuck: behind a `.` or more there is an empty name, and the
path of no letters leads nowhere. -/
def Stalls : List (List Char) → Prop
  | [] :: _ => True
  | ['.'] :: names => Stalls names
  | _ => False

section Child

variable {here : Path} {name : String}

theorem text_child (spelled : here.text ≠ "") (name : String) :
    (here.child name).text = here.lead ++ name := by
  rw [lead, child, child]
  split
  · rw [String.empty_append]
  · rw [join, join]
    cases known : here.text.toList.getLast? with
    | none => exact absurd (String.toList_eq_nil_iff.mp (List.getLast?_eq_none_iff.mp known)) spelled
    | some last => by_cases ended : last = '/' <;> simp [ended, String.append_assoc]

theorem size_child (spelled : here.text ≠ "") (name : String) :
    (here.child name).text.utf8ByteSize = here.lead.utf8ByteSize + name.utf8ByteSize := by
  rw [text_child spelled, String.utf8ByteSize_append]

theorem size_lead (here : Path) : here.lead.utf8ByteSize ≤ here.text.utf8ByteSize + 1 := by
  rw [lead, child]
  split
  · exact Nat.zero_le _
  · rw [join]
    split
    · exact Nat.zero_le _
    · split
      · simp
      · rw [String.utf8ByteSize_append, String.utf8ByteSize_append]
        exact Nat.le_refl _

theorem child_spelled (spelled : here.text ≠ "") (filled : here.parts = [.current] → name ≠ "") :
    (here.child name).text ≠ "" := by
  rw [child]
  split
  · next current => exact filled current
  · intro empty
    have begins := head?_join name spelled
    rw [empty] at begins
    exact spelled (String.toList_eq_nil_iff.mp (List.head?_eq_none_iff.mp begins.symm))

theorem parts_child_current (spelled : here.text ≠ "") (inner : '/' ∉ name.toList)
    (current : (here.child name).parts = [.current]) : here.parts = [.current] ∧ name.toList = ['.'] := by
  rw [child] at current
  split at current
  · next start =>
    refine ⟨start, ?_⟩
    have relative : IsRelative ⟨name⟩ := fun slash => inner (List.mem_of_head? slash)
    have dotted : Part.current ∈ parts ⟨name⟩ := by
      rw [current]
      exact List.mem_cons_self
    rw [relative.current_mem, pieces_of_name inner] at dotted
    exact Option.some.inj dotted
  · next away =>
    rw [parts_join_piece spelled inner] at current
    cases added : Part.ofPiece? name.toList with
    | none =>
      rw [added] at current
      exact absurd ((List.append_nil _).symm.trans current) away
    | some part =>
      rw [added] at current
      have last : part = .current := by
        simpa using congrArg List.getLast? current
      exact absurd (last ▸ added) (Part.ofPiece?_ne_current _)

end Child

section Dot

variable (text : String)

theorem toList_dot : ("./" ++ text).toList = ['.'] ++ '/' :: text.toList := String.toList_append

theorem isRelative_dot : IsRelative ⟨"./" ++ text⟩ := by
  rw [IsRelative, toList_dot, List.singleton_append, List.head?_cons]
  decide

theorem pieces_dot : pieces ⟨"./" ++ text⟩ = ['.'] :: pieces ⟨text⟩ := by
  rw [pieces, toList_dot]
  exact Text.split_append_cons (by decide) _

/-- A search leaves a `.` at the beginning of a path out. -/
theorem respelled_dot {text : String} (relative : IsRelative ⟨text⟩) :
    respelled ⟨"./" ++ text⟩ = respelled ⟨text⟩ := by
  have dotted := isRelative_dot text
  rw [respelled, respelled, if_neg dotted, if_neg relative, steps_of_relative dotted,
    steps_of_relative relative, pieces_dot]
  rfl

end Dot

end Path

namespace FileTree

variable {tree : FileTree} {here there : Place}

/-- A walk of a step or more begins in a directory. -/
theorem directory_of_walk {pieces : List (List Char)} (filled : pieces ≠ [])
    (walked : tree.walk pieces here = .ok there) : tree.holds? here = some .directory := by
  cases pieces with
  | nil => exact absurd rfl filled
  | cons piece pieces =>
    rw [walk] at walked
    cases taken : tree.step here piece with
    | error error =>
      rw [taken] at walked
      cases walked
    | ok next => exact (step_cases taken).1

theorem step_dot (inside : tree.holds? here = some .directory) : tree.step here ['.'] = .ok here := by
  obtain ⟨entries, found⟩ := holds?_directory_iff.mp inside
  simp only [step, found]

end FileTree

namespace Workspace

variable {workspace : Workspace} {here : Path} {place next : Place}

theorem place_of_current (current : here.parts = [.current])
    (reached : workspace.tree.walk here.pieces (workspace.start here) = .ok place) :
    place = workspace.home := by
  have relative : here.IsRelative := by
    intro top
    rw [Path.parts_of_top top] at current
    cases current
  have nowhere : here.pieces.filterMap Path.Part.ofPiece? = [] := by
    rw [relative.parts_eq] at current
    split at current
    · exact List.cons_inj_right _ |>.mp current
    · obtain ⟨piece, -, stands⟩ := List.mem_filterMap.mp (current ▸ List.mem_singleton_self _)
      exact absurd stands (Path.Part.ofPiece?_ne_current piece)
  obtain ⟨names, known, rfl⟩ := FileTree.walk_names (by rw [nowhere]; exact List.not_mem_nil) reached
  rw [nowhere] at known
  rw [start, if_neg relative, List.map_eq_nil_iff.mp known.symm, List.append_nil]

theorem place_child {name : String} (placed : workspace.place here = .ok place) (inner : '/' ∉ name.toList)
    (filled : here.parts = [.current] → name ≠ "") :
    workspace.place (here.child name) =
      if pathLimit ≤ (here.child name).text.utf8ByteSize then .error .nameTooLong
      else workspace.tree.step place name.toList := by
  obtain ⟨spelled, -, reached⟩ := place_eq_ok_iff.mp placed
  have walked : workspace.tree.walk (here.child name).pieces (workspace.start (here.child name)) =
      workspace.tree.step place name.toList := by
    rw [Path.child]
    split
    · next current =>
      have start : workspace.start ⟨name⟩ = workspace.home :=
        if_neg fun slash => inner (List.mem_of_head? slash)
      rw [Path.pieces_of_name inner, start, FileTree.walk_singleton, place_of_current current reached]
    · obtain ⟨front, joined, walked⟩ := walk_front spelled inner reached
      rw [joined, FileTree.walk_append, walked]
      exact FileTree.walk_singleton _ _
  rw [Workspace.place, piecesOf, if_neg (mt String.isEmpty_iff.mp (Path.child_spelled spelled filled))]
  split
  · rfl
  · exact walked

theorem search_literal {name : String} (levels : List Pattern.Level)
    (placed : workspace.place here = .ok place) (placed' : workspace.place (here.child name) = .ok next)
    (taken : workspace.tree.step place name.toList = .ok next) :
    workspace.search (.literal name :: levels) here = workspace.search levels (here.child name) := by
  have isDirectory : workspace.isDirectory here :=
    isDirectory_iff.mpr ⟨place, placed, (FileTree.step_cases taken).1⟩
  have contains : workspace.contains (here.child name) := by
    rw [Workspace.contains, at?, placed', ← FileTree.isSome_holds?]
    exact FileTree.isSome_of_step taken
  rw [search, isDirectory, contains]
  simp

/-- A search by names goes on where a walk by them leads, if no path on the way is too long. -/
theorem search_names {names : List (List Char)} (levels : List Pattern.Level)
    (placed : workspace.place here = .ok place) (inner : ∀ name ∈ names, '/' ∉ name)
    (flowing : here.parts = [.current] → ¬ Path.Stalls names)
    (short : here.lead.utf8ByteSize + Text.size names ≤ pathLimit)
    (walked : workspace.tree.walk names place = .ok next) :
    let there := here.descend names
    workspace.search (names.map (fun name => .literal (String.ofList name)) ++ levels) here =
        workspace.search levels there ∧
      workspace.place there = .ok next ∧
      there.lead.utf8ByteSize ≤ here.lead.utf8ByteSize + Text.size names := by
  -- On the way, the path so far leads to the place so far, and what is left of the names still fits
  -- behind it.
  induction names generalizing here place with
  | nil =>
    cases walked
    exact ⟨rfl, placed, Nat.le_refl _⟩
  | cons name names ih =>
    obtain ⟨first, others⟩ := List.forall_mem_cons.mp inner
    rw [Text.size] at short
    rw [FileTree.walk] at walked
    cases taken : workspace.tree.step place name with
    | error error =>
      rw [taken] at walked
      cases walked
    | ok after =>
      rw [taken] at walked
      rw [← String.toList_ofList (l := name)] at first taken
      have spelled := (place_eq_ok_iff.mp placed).1
      let child := here.child (String.ofList name)
      have size : child.text.utf8ByteSize = _ := Path.size_child spelled (String.ofList name)
      have lead := child.size_lead
      have fits : child.text.utf8ByteSize < pathLimit := by omega
      have filled : here.parts = [.current] → String.ofList name ≠ "" := by
        intro start empty
        have flows := flowing start
        rw [String.ofList_eq_empty_iff.mp empty] at flows
        exact flows trivial
      have placed' : workspace.place child = .ok after := by
        rw [place_child placed first filled, if_neg (Nat.not_le.mpr fits), taken]
      have flowing' : child.parts = [.current] → ¬ Path.Stalls names := by
        intro current
        obtain ⟨start, dotted⟩ := Path.parts_child_current spelled first current
        rw [String.toList_ofList] at dotted
        have flows := flowing start
        rwa [dotted, Path.Stalls] at flows
      obtain ⟨goes, reached, bounded⟩ := ih placed' others flowing' (by omega) walked
      refine ⟨?_, reached, ?_⟩
      · rw [List.map_cons, List.cons_append, search_literal _ placed placed' taken]
        exact goes
      · rw [Text.size]
        exact Nat.le_trans bounded (by omega)

/-- A search by the names of a directory comes to the directory, and goes on with paths that are no
longer than those below the directory are. -/
theorem search_steps {directory : Path} {root : Place} (leads : workspace.Leads directory root)
    (flowing : directory.IsRelative → ¬ Path.Stalls directory.pieces) (levels : List Pattern.Level) :
    workspace.search (directory.steps.map (fun name => .literal (String.ofList name)) ++ levels)
        ⟨if directory.text.toList.head? = some '/' then "/" else "."⟩ =
          workspace.search levels directory.respelled ∧
      workspace.Leads directory.respelled root ∧
      directory.respelled.lead.utf8ByteSize ≤ directory.text.utf8ByteSize + 1 := by
  let start : Path := ⟨if directory.text.toList.head? = some '/' then "/" else "."⟩
  obtain ⟨-, fits, walked⟩ := place_eq_ok_iff.mp leads.1
  have free : ∀ name ∈ directory.steps, '/' ∉ name := fun name inside => Text.not_mem_split inside
  have size := directory.size_steps
  suffices comes : ∃ place, workspace.place start = .ok place ∧
      (start.parts = [.current] → ¬ Path.Stalls directory.steps) ∧
      start.lead.utf8ByteSize = (if directory.text.toList.head? = some '/' then 1 else 0) ∧
      workspace.tree.walk directory.steps place = .ok root by
    obtain ⟨place, placed, flows, lead, goes⟩ := comes
    rw [← lead] at size
    obtain ⟨same, reached, bounded⟩ := search_names levels placed free flows (by omega) goes
    exact ⟨same, ⟨reached, leads.2⟩, size ▸ bounded⟩
  have inside := FileTree.directory_of_walk (List.cons_ne_nil _ _) walked
  rw [Workspace.start] at inside walked
  by_cases top : directory.text.toList.head? = some '/'
  · have first : start = ⟨"/"⟩ := by simp only [start, if_pos top]
    rw [if_pos top] at inside walked
    rw [Path.pieces_of_top top, FileTree.walk, FileTree.step_empty inside] at walked
    rw [first, if_pos top]
    have placed : workspace.place ⟨"/"⟩ = .ok [] :=
      place_eq_ok_iff.mpr ⟨by decide, by decide, FileTree.walk_empty inside 2⟩
    exact ⟨[], placed, fun current => absurd current (by decide), rfl, walked⟩
  · have first : start = ⟨"."⟩ := by simp only [start, if_neg top]
    rw [if_neg top] at inside walked
    have placed : workspace.place ⟨"."⟩ = .ok workspace.home :=
      place_eq_ok_iff.mpr ⟨by decide, by decide, (FileTree.walk_singleton _ _).trans (FileTree.step_dot inside)⟩
    rw [Path.steps_of_relative top, first, if_neg top]
    exact ⟨workspace.home, placed, fun _ => flowing top, rfl, walked⟩

end Workspace

end ComponentDocs
