import ComponentDocs.Files.Workspace
import ComponentDocs.Proofs.Files.Holding

/-! Files written into a directory, and directories made: where they go, what stands in their
way, and what else of the tree they change, which is nothing. -/
namespace ComponentDocs

open FileTree (IsName Outlasts Place)

theorem Text.split_append (separator : Char) (first second : List Char) :
    split separator (first ++ separator :: second) = split separator first ++ split separator second := by
  suffices cut separator (first ++ separator :: second) =
      ((cut separator first).1, (cut separator first).2 ++ split separator second) by
    simp only [split, this, List.cons_append]
  induction first with
  | nil => simp [cut, split]
  | cons c first ih =>
    by_cases same : c = separator <;> simp [cut, ih, same]

namespace Path

def IsPlain (name : String) : Prop := IsName name.toList ∧ '/' ∉ name.toList

/-- The pieces of a name below a directory: those of the directory, but for an empty one at the
end, and the name. -/
theorem pieces_join {directory : Path} {name : String} (spelled : directory.text ≠ "")
    (inner : '/' ∉ name.toList) :
    ∃ front, (directory.join name).pieces = front ++ [name.toList] ∧
      (directory.pieces = front ∨ directory.pieces = front ++ [[]]) := by
  rw [join]
  cases known : directory.text.toList.getLast? with
  | none => exact absurd (String.toList_eq_nil_iff.mp (List.getLast?_eq_none_iff.mp known)) spelled
  | some last =>
    by_cases ended : last = '/'
    · obtain ⟨letters, parted⟩ := List.getLast?_eq_some_iff.mp known
      simp only [if_pos ended]
      simp only [pieces, String.toList_append, parted, ended, List.append_assoc,
        List.singleton_append, Text.split_append, Text.split_of_not_mem inner]
      exact ⟨_, rfl, .inr rfl⟩
    · simp only [if_neg ended, pieces, String.toList_append, List.append_assoc,
        show "/".toList = ['/'] from rfl, List.singleton_append, Text.split_append,
        Text.split_of_not_mem inner]
      exact ⟨_, rfl, .inl rfl⟩

theorem head?_join {directory : Path} (name : String) (spelled : directory.text ≠ "") :
    (directory.join name).text.toList.head? = directory.text.toList.head? := by
  have filled : directory.text.toList ≠ [] := mt String.toList_eq_nil_iff.mp spelled
  obtain ⟨first, rest, begun⟩ := List.exists_cons_of_ne_nil filled
  rw [join]
  cases known : directory.text.toList.getLast? with
  | none => exact absurd (List.getLast?_eq_none_iff.mp known) filled
  | some last =>
    by_cases ended : last = '/' <;> simp [ended, begun]

end Path

namespace Workspace

variable {workspace : Workspace} {directory : Path} {root : Place} {name : String}

def Leads (workspace : Workspace) (directory : Path) (root : Place) : Prop :=
  workspace.place directory = .ok root ∧ workspace.tree.holds? root = some .directory

/-- Why no file can be written under a name in a directory: the path or the name is too
long, or there is a directory of that name. -/
def obstacle? (workspace : Workspace) (directory : Path) (root : Place) (name : String) :
    Option FileError :=
  if pathLimit ≤ (directory.join name).text.utf8ByteSize ∨ FileTree.nameLimit < name.utf8ByteSize then
    some .nameTooLong
  else if workspace.tree.holds? (root ++ [name]) = some .directory then some .isDirectory
  else none

theorem place_eq_ok_iff {path : Path} {place : Place} : workspace.place path = .ok place ↔
    path.text ≠ "" ∧ path.text.utf8ByteSize < pathLimit ∧
      workspace.tree.walk path.pieces (workspace.start path) = .ok place := by
  rw [Workspace.place, piecesOf]
  by_cases empty : path.text = ""
  · rw [if_pos (String.isEmpty_iff.mpr empty)]
    exact iff_of_false (fun placed => by cases placed) fun placed => placed.1 empty
  · rw [if_neg (mt String.isEmpty_iff.mp empty)]
    by_cases long : pathLimit ≤ path.text.utf8ByteSize
    · rw [if_pos long]
      exact iff_of_false (fun placed => by cases placed) fun placed => Nat.not_le.mpr placed.2.1 long
    · rw [if_neg long]
      exact ⟨fun walked => ⟨empty, Nat.not_le.mp long, walked⟩, fun placed => placed.2.2⟩

theorem Leads.spelled (leads : workspace.Leads directory root) : directory.text ≠ "" :=
  (place_eq_ok_iff.mp leads.1).1

theorem walk_of_place {path : Path} {place : Place} (placed : workspace.place path = .ok place) :
    workspace.tree.walk path.pieces (workspace.start path) = .ok place := (place_eq_ok_iff.mp placed).2.2

theorem Leads.walk (leads : workspace.Leads directory root) :
    workspace.tree.walk directory.pieces (workspace.start directory) = .ok root := walk_of_place leads.1

theorem walk_front (spelled : directory.text ≠ "") (inner : '/' ∉ name.toList)
    (whole : workspace.tree.walk directory.pieces (workspace.start directory) = .ok root) :
    ∃ front, (directory.join name).pieces = front ++ [name.toList] ∧
      workspace.tree.walk front (workspace.start (directory.join name)) = .ok root := by
  obtain ⟨front, joined, parted⟩ := Path.pieces_join spelled inner
  have start : workspace.start (directory.join name) = workspace.start directory := by
    rw [start, start, Path.head?_join name spelled]
  refine ⟨front, joined, start ▸ ?_⟩
  rcases parted with same | ended
  · rwa [same] at whole
  · rw [ended, FileTree.walk_append] at whole
    cases reached : workspace.tree.walk front (workspace.start directory) with
    | error error =>
      rw [reached] at whole
      cases whole
    | ok place =>
      rw [reached] at whole
      have last : workspace.tree.step place [] = .ok root := (FileTree.walk_singleton _ _).symm.trans whole
      rw [FileTree.step_empty (FileTree.step_cases last).1] at last
      exact last

theorem target_join (leads : workspace.Leads directory root) (plain : Path.IsPlain name) :
    workspace.target (directory.join name) (directory.join name).pieces = .ok (root, name.toList) := by
  obtain ⟨front, joined, walked⟩ := walk_front leads.spelled plain.2 leads.walk
  rw [target, joined, List.getLast?_concat, List.dropLast_concat, walked]
  rfl

theorem piecesOf_join (leads : workspace.Leads directory root) (plain : Path.IsPlain name) :
    piecesOf (directory.join name) =
      if pathLimit ≤ (directory.join name).text.utf8ByteSize then .error .nameTooLong
      else .ok (directory.join name).pieces := by
  have filled : (directory.join name).text.isEmpty = false := by
    rw [Bool.eq_false_iff]
    intro empty
    obtain ⟨front, joined, -⟩ := Path.pieces_join leads.spelled plain.2
    rw [Path.pieces, String.isEmpty_iff.mp empty] at joined
    have last := congrArg List.getLast? joined
    rw [List.getLast?_concat] at last
    exact plain.1.1 (Option.some.inj last).symm
  rw [piecesOf, filled]
  rfl

theorem place_join (leads : workspace.Leads directory root) (plain : Path.IsPlain name) :
    workspace.place (directory.join name) =
      if pathLimit ≤ (directory.join name).text.utf8ByteSize then .error .nameTooLong
      else workspace.tree.step root name.toList := by
  rw [place, piecesOf_join leads plain]
  split
  · rfl
  · obtain ⟨front, joined, walked⟩ := walk_front leads.spelled plain.2 leads.walk
    rw [Except.bind, joined, FileTree.walk_append, walked]
    exact FileTree.walk_singleton _ _

theorem write_join (leads : workspace.Leads directory root) (plain : Path.IsPlain name)
    (content : ByteArray) :
    workspace.write (directory.join name) content =
      match workspace.obstacle? directory root name with
      | some error => (.error error, workspace)
      | none => (.ok (), workspace.put name.toList (.file content) root) := by
  rw [write, piecesOf_join leads plain, obstacle?]
  by_cases long : pathLimit ≤ (directory.join name).text.utf8ByteSize
  · rw [if_pos long, if_pos (.inl long)]
    rfl
  · simp only [if_neg long, Except.bind, target_join leads plain,
      FileTree.step_of_name leads.2 plain.1, String.ofList_toList]
    by_cases wide : FileTree.nameLimit < name.utf8ByteSize
    · rw [if_pos wide, if_pos (.inr wide)]
    · rw [if_neg wide, if_neg (not_or.mpr ⟨long, wide⟩)]
      cases found : workspace.tree.find? (root ++ [name]) with
      | none => simp [FileTree.holds?, found]
      | some inner =>
        cases inner with
        | file => simp [FileTree.holds?, found, FileTree.holding]
        | directory => simp [FileTree.holds?, found, FileTree.holding]

theorem obstacle?_of_write {content : ByteArray} (leads : workspace.Leads directory root) (plain : Path.IsPlain name)
    (written : (workspace.write (directory.join name) content).1 = .ok ()) :
    workspace.obstacle? directory root name = none := by
  rw [write_join leads plain] at written
  split at written
  · cases written
  · assumption

theorem not_directory_of_free (free : workspace.obstacle? directory root name = none) :
    workspace.tree.holds? (root ++ [name]) ≠ some .directory := by
  intro occupied
  rw [obstacle?, if_pos occupied] at free
  split at free <;> cases free

/-- Where a file can be written, its path leads to whatever has its place. -/
theorem contains_join (leads : workspace.Leads directory root) (plain : Path.IsPlain name)
    (free : workspace.obstacle? directory root name = none) :
    workspace.contains (directory.join name) = (workspace.tree.holds? (root ++ [name])).isSome := by
  rw [obstacle?] at free
  split at free
  · cases free
  · next short =>
    obtain ⟨short, narrow⟩ := not_or.mp short
    rw [contains, at?, place_join leads plain, if_neg short, FileTree.step_of_name leads.2 plain.1,
      String.ofList_toList, if_neg narrow]
    by_cases there : (workspace.tree.holds? (root ++ [name])).isSome
    · rw [if_pos there, there, ← FileTree.isSome_holds?, there]
    · rw [if_neg there, Bool.eq_false_iff.mpr there]
      rfl

theorem holds?_put_file (leads : workspace.Leads directory root)
    (free : workspace.obstacle? directory root name = none) (content : ByteArray) :
    (workspace.put name.toList (.file content) root).tree.holds? =
      Function.update workspace.tree.holds? (root ++ [name]) (some (.file content)) := by
  rw [put, String.ofList_toList]
  exact FileTree.holds?_put (FileTree.isBare_file content) leads.2 (not_directory_of_free free)

theorem Leads.outlasts {after : Workspace} (leads : workspace.Leads directory root)
    (same : after.home = workspace.home) (outlasts : Outlasts workspace.tree after.tree) :
    after.Leads directory root := by
  refine ⟨?_, outlasts.directories _ leads.2⟩
  have placed := leads.1
  rw [place] at placed ⊢
  cases spelled : piecesOf directory with
  | error error =>
    rw [spelled] at placed
    cases placed
  | ok pieces =>
    rw [spelled] at placed
    have start : after.start directory = workspace.start directory := by rw [start, start, same]
    rw [start]
    exact outlasts.walk placed

theorem Leads.put_file (leads : workspace.Leads directory root)
    (free : workspace.obstacle? directory root name = none) (content : ByteArray) :
    let after := workspace.put name.toList (.file content) root
    after.home = workspace.home ∧
      after.tree.holds? =
        Function.update workspace.tree.holds? (root ++ [name]) (some (.file content)) ∧
      after.Leads directory root := by
  intro after
  have held := holds?_put_file leads free content
  exact ⟨rfl, held, leads.outlasts rfl (.of_update (not_directory_of_free free) held)⟩

/-- Nothing is different but for new directories. -/
structure Grows (before after : Workspace) : Prop where
  home : after.home = before.home
  held : ∀ place, after.tree.holds? place = before.tree.holds? place ∨
    before.tree.holds? place = none ∧ after.tree.holds? place = some .directory

namespace Grows

theorem refl (workspace : Workspace) : workspace.Grows workspace := ⟨rfl, fun _ => .inl rfl⟩

theorem trans {first second third : Workspace} (early : first.Grows second)
    (late : second.Grows third) : first.Grows third := by
  refine ⟨late.home.trans early.home, fun place => ?_⟩
  rcases late.held place with same | ⟨absent, made⟩
  · rw [same]
    exact early.held place
  · rcases early.held place with same | ⟨-, there⟩
    · exact .inr ⟨same.symm.trans absent, made⟩
    · rw [there] at absent
      cases absent

end Grows

def HasHome (workspace : Workspace) : Prop := workspace.tree.holds? workspace.home = some .directory

theorem HasHome.start {workspace : Workspace} (home : workspace.HasHome) (path : Path) :
    (workspace.tree.holds? (workspace.start path)).isSome := by
  rw [Workspace.start]
  split
  · rfl
  · rw [home]
    rfl

theorem isDirectory_iff {path : Path} :
    workspace.isDirectory path ↔ ∃ root, workspace.Leads path root := by
  simp only [isDirectory, at?, Leads, FileTree.holds?_directory_iff]
  cases workspace.place path with
  | error error => simp
  | ok root =>
    cases found : workspace.tree.find? root with
    | none => simp [found]
    | some inner => cases inner <;> simp [found]

theorem leads_of_walk {path : Path} {pieces : List (List Char)} (spelled : piecesOf path = .ok pieces)
    (walked : workspace.tree.walk pieces (workspace.start path) = .ok root)
    (inside : workspace.tree.holds? root = some .directory) : workspace.Leads path root := by
  refine ⟨?_, inside⟩
  rw [place, spelled]
  exact walked

/-- Pieces are those that count, and empty ones at the end. -/
theorem pieces_trimmed (pieces : List (List Char)) :
    ∃ count, pieces = (pieces.reverse.dropWhile List.isEmpty).reverse ++ List.replicate count [] := by
  let front := pieces.reverse.dropWhile List.isEmpty
  let last := pieces.reverse.takeWhile List.isEmpty
  have empty : ∀ piece ∈ last, piece = [] := fun piece there =>
    List.isEmpty_iff.mp (List.all_eq_true.mp List.all_takeWhile piece there)
  refine ⟨last.length, ?_⟩
  calc
    pieces = (last ++ front).reverse := by
      rw [List.takeWhile_append_dropWhile, List.reverse_reverse]
    _ = front.reverse ++ last.reverse := List.reverse_append
    _ = front.reverse ++ List.replicate last.length [] := by
      rw [List.eq_replicate_of_mem empty, List.reverse_replicate, List.length_replicate]

theorem target_eq_ok {path : Path} {pieces : List (List Char)} {place : Place} {last : List Char}
    (aimed : workspace.target path pieces = .ok (place, last)) :
    ∃ front, pieces = front ++ [last] ∧
      workspace.tree.walk front (workspace.start path) = .ok place := by
  rw [target] at aimed
  cases ended : pieces.getLast? with
  | none =>
    rw [ended] at aimed
    cases aimed
  | some piece =>
    obtain ⟨front, rfl⟩ := List.getLast?_eq_some_iff.mp ended
    rw [ended, List.dropLast_concat] at aimed
    refine ⟨front, ?_⟩
    cases walked : workspace.tree.walk front (workspace.start path) with
    | error error =>
      rw [walked] at aimed
      cases aimed
    | ok reached =>
      rw [walked] at aimed
      cases aimed
      exact ⟨rfl, rfl⟩

section New

variable {place : Place} {last : List Char}

/-- A directory that is made where a step found nothing. -/
theorem holds?_put_empty (there : (workspace.tree.holds? place).isSome)
    (missed : workspace.tree.step place last = .error .notFound) :
    (workspace.put last .empty place).tree.holds? =
      Function.update workspace.tree.holds? (place ++ [String.ofList last]) (some .directory) := by
  obtain ⟨inside, -, -, absent⟩ := FileTree.new_of_step there missed
  exact FileTree.holds?_put FileTree.isBare_empty inside (by simp [absent])

theorem grows_put_empty (there : (workspace.tree.holds? place).isSome)
    (missed : workspace.tree.step place last = .error .notFound) :
    workspace.Grows (workspace.put last .empty place) := by
  obtain ⟨-, -, -, absent⟩ := FileTree.new_of_step there missed
  refine ⟨rfl, fun other => ?_⟩
  rw [holds?_put_empty there missed, Function.update_apply]
  split
  · next same => exact .inr ⟨same ▸ absent, rfl⟩
  · exact .inl rfl

theorem walk_put_empty {front : List (List Char)} {path : Path}
    (there : (workspace.tree.holds? place).isSome)
    (walked : workspace.tree.walk front (workspace.start path) = .ok place)
    (missed : workspace.tree.step place last = .error .notFound) (count : Nat) :
    (workspace.put last .empty place).tree.walk ((front ++ [last]) ++ List.replicate count [])
      (workspace.start path) = .ok (place ++ [String.ofList last]) := by
  obtain ⟨inside, named, short, absent⟩ := FileTree.new_of_step there missed
  have held := holds?_put_empty there missed
  have outlasts : Outlasts workspace.tree (workspace.put last .empty place).tree :=
    .of_update (by simp [absent]) held
  have made : (workspace.put last .empty place).tree.holds? (place ++ [String.ofList last]) =
      some .directory := by
    rw [held, Function.update_self]
  have taken : (workspace.put last .empty place).tree.step place last =
      .ok (place ++ [String.ofList last]) := by
    rw [FileTree.step_of_name (outlasts.directories _ inside) named, if_neg (Nat.not_lt.mpr short),
      made]
    rfl
  have stepped := (FileTree.walk_singleton last place).trans taken
  rw [FileTree.walk_append, FileTree.walk_append, outlasts.walk walked]
  simp only [Except.bind, stepped, FileTree.walk_empty made]

end New

/-- An outcome with no more than new directories, in which a path leads to a directory if
all went well. -/
def Provides (workspace : Workspace) (path : Path) (outcome : Except FileError Unit × Workspace) : Prop :=
  workspace.Grows outcome.2 ∧ (outcome.1 = .ok () → ∃ root, outcome.2.Leads path root)

theorem createDirectory_cases (home : workspace.HasHome) (path : Path) :
    (∃ error, workspace.createDirectory path = (.error error, workspace)) ∨
      ∃ made place, workspace.createDirectory path = (.ok (), made) ∧ workspace.Grows made ∧
        made.tree.holds? = Function.update workspace.tree.holds? place (some .directory) ∧
        made.Leads path place := by
  rw [createDirectory]
  cases spelled : piecesOf path with
  | error error => exact .inl ⟨error, rfl⟩
  | ok pieces =>
    simp only [Except.bind]
    split
    · exact .inl ⟨_, rfl⟩
    · next place last aimed =>
      obtain ⟨front, trimmed, walked⟩ := target_eq_ok aimed
      split
      · exact .inl ⟨_, rfl⟩
      · next missed =>
        have there := FileTree.isSome_of_walk (home.start path) walked
        have held := holds?_put_empty there missed
        obtain ⟨count, parted⟩ := pieces_trimmed pieces
        have reached := walk_put_empty there walked missed count
        rw [← trimmed, ← parted] at reached
        refine .inr ⟨_, _, rfl, grows_put_empty there missed, held, leads_of_walk spelled reached ?_⟩
        rw [held, Function.update_self]
      · exact .inl ⟨_, rfl⟩

theorem createDirectory_provides (home : workspace.HasHome) (path : Path) :
    workspace.Provides path (workspace.createDirectory path) := by
  rcases createDirectory_cases home path with ⟨error, refused⟩ | ⟨made, place, created, grows, -, leads⟩
  · rw [refused]
    exact ⟨.refl workspace, nofun⟩
  · rw [created]
    exact ⟨grows, fun _ => ⟨place, leads⟩⟩

theorem settle_provides {path : Path} {outcome : Except FileError Unit × Workspace}
    (provides : workspace.Provides path outcome) :
    workspace.Provides path (createNested.settle path outcome) := by
  obtain ⟨result, after⟩ := outcome
  cases result with
  | ok => exact provides
  | error error =>
    rw [createNested.settle]
    split
    · next there => exact ⟨provides.1, fun _ => isDirectory_iff.mp there⟩
    · exact provides

theorem Provides.trans {next : Workspace} {path : Path} {outcome : Except FileError Unit × Workspace}
    (grows : workspace.Grows next) (provides : next.Provides path outcome) :
    workspace.Provides path outcome := ⟨grows.trans provides.1, provides.2⟩

theorem Grows.outlasts {before after : Workspace} (grows : before.Grows after) :
    Outlasts before.tree after.tree := by
  constructor
  · intro place inside
    rcases grows.held place with same | ⟨absent, -⟩
    · exact same.trans inside
    · rw [inside] at absent
      cases absent
  · intro place there
    rcases grows.held place with same | ⟨absent, -⟩
    · rwa [same]
    · rw [absent] at there
      cases there

theorem Grows.hasHome {before after : Workspace} (grows : before.Grows after) (home : before.HasHome) :
    after.HasHome := by
  rw [HasHome, grows.home]
  exact grows.outlasts.directories _ home

/-- Nothing is different but for new directories, to which some paths lead. -/
structure Opens (paths : List Path) (before after : Workspace) : Prop where
  grows : before.Grows after
  leads : ∀ place, after.tree.holds? place ≠ before.tree.holds? place →
    ∃ path ∈ paths, after.Leads path place

namespace Opens

variable {paths : List Path} {first second third : Workspace}

theorem refl (paths : List Path) (workspace : Workspace) : Opens paths workspace workspace :=
  ⟨.refl workspace, fun _ different => absurd rfl different⟩

theorem mono {more : List Path} (opens : Opens paths first second) (within : paths ⊆ more) :
    Opens more first second := by
  refine ⟨opens.grows, fun place different => ?_⟩
  obtain ⟨path, there, leads⟩ := opens.leads place different
  exact ⟨path, within there, leads⟩

theorem trans (early : Opens paths first second) (late : Opens paths second third) :
    Opens paths first third := by
  refine ⟨early.grows.trans late.grows, fun place different => ?_⟩
  by_cases same : third.tree.holds? place = second.tree.holds? place
  · rw [same] at different
    obtain ⟨path, there, leads⟩ := early.leads place different
    exact ⟨path, there, leads.outlasts late.grows.home late.grows.outlasts⟩
  · exact late.leads place same

end Opens

theorem createDirectory_opens (home : workspace.HasHome) (path : Path) :
    workspace.Opens [path] (workspace.createDirectory path).2 := by
  rcases createDirectory_cases home path with ⟨error, refused⟩ | ⟨made, place, created, grows, held, leads⟩
  · rw [refused]
    exact .refl _ _
  · rw [created]
    refine ⟨grows, fun other different => ⟨path, List.mem_singleton_self _, ?_⟩⟩
    rw [held, Function.update_apply] at different
    split at different
    · next same => exact same ▸ leads
    · exact absurd rfl different

theorem settle_workspace (path : Path) (outcome : Except FileError Unit × Workspace) :
    (createNested.settle path outcome).2 = outcome.2 := by
  obtain ⟨_ | _, after⟩ := outcome
  · rw [createNested.settle]
    split <;> rfl
  · rfl

/-- Also where not all of some directories can be made, those that are made are among them. -/
theorem createNested_opens (home : workspace.HasHome) (paths : List Path) :
    workspace.Opens paths (workspace.createNested paths).2 := by
  induction paths generalizing workspace with
  | nil => exact .refl _ _
  | cons path outer ih =>
    have here {workspace : Workspace} (home : workspace.HasHome) :
        workspace.Opens (path :: outer) (workspace.createDirectory path).2 :=
      (createDirectory_opens home path).mono (List.cons_subset_cons path (List.nil_subset outer))
    have first := here home
    rw [createNested]
    split
    · next made => rwa [made] at first
    · next missed =>
      rw [missed] at first
      have before := (ih (first.grows.hasHome home)).mono (List.subset_cons_self path outer)
      split
      · next refused =>
        rw [refused] at before
        exact first.trans before
      · next ready =>
        rw [ready] at before
        have reached := first.trans before
        rw [settle_workspace]
        exact reached.trans (here (reached.grows.hasHome home))
    · rw [settle_workspace]
      exact first

theorem createNested_provides (home : workspace.HasHome) (path : Path) (outer : List Path) :
    workspace.Provides path (workspace.createNested (path :: outer)) := by
  have first := createDirectory_provides home path
  rw [createNested]
  split
  · next made => rwa [made] at first
  · next missed =>
    rw [missed] at first
    have before := (createNested_opens (first.1.hasHome home) outer).grows
    -- The directories that lead here have been tried, and what was made of them stays.
    split
    · next refused =>
      rw [refused] at before
      exact ⟨first.1.trans before, nofun⟩
    · next ready =>
      rw [ready] at before
      have reached := first.1.trans before
      exact settle_provides (.trans reached (createDirectory_provides (reached.hasHome home) path))
  · exact settle_provides first

/-- A directory that a run has made, or found, is there for its files, and no file is
different. -/
theorem createDirectories_ok {path : Path} {made : Workspace} (home : workspace.HasHome)
    (created : workspace.createDirectories path = (.ok (), made)) :
    workspace.Grows made ∧ ∃ root, made.Leads path root := by
  have provides := createNested_provides home path path.ancestors
  have created : workspace.createNested (path :: path.ancestors) = (.ok (), made) := created
  rw [created] at provides
  exact ⟨provides.1, provides.2 rfl⟩

theorem createDirectories_opens (home : workspace.HasHome) (path : Path) :
    workspace.Opens (path :: path.ancestors) (workspace.createDirectories path).2 :=
  createNested_opens home _

end Workspace

end ComponentDocs
