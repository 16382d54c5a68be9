import ComponentDocs.Proofs.Command.Selection
import ComponentDocs.Proofs.Files.Literal

/-! Directories as arguments. A directory stands for what its `*.json` pattern stands for, as far as
the two can differ at all: in a name that has nothing before the extension, and where paths are too
long. -/
namespace ComponentDocs

open FileTree (Place)

theorem Text.append_eq_iff {stem extension : String} : stem ++ extension = extension ↔ stem = "" := by
  rw [← String.toList_inj, String.toList_append, List.append_left_eq_self, String.toList_eq_nil_iff]

theorem Path.join_of_closed {directory : String} (spelled : directory ≠ "")
    (closed : directory.toList.getLast? ≠ some '/') (name : String) :
    Path.join ⟨directory⟩ name = ⟨directory ++ "/" ++ name⟩ := by
  rw [join]
  cases known : directory.toList.getLast? with
  | none => exact absurd (String.toList_eq_nil_iff.mp (List.getLast?_eq_none_iff.mp known)) spelled
  | some last =>
    have other : last ≠ '/' := fun slash => closed (known.trans (congrArg some slash))
    simp only [if_neg other]

namespace Workspace

variable {workspace : Workspace} {path : Path} {root place : Place} {name : String}

theorem isFile_iff : workspace.isFile path ↔
    ∃ place content, workspace.place path = .ok place ∧
      workspace.tree.holds? place = some (.file content) := by
  rw [isFile, at?]
  cases placed : workspace.place path with
  | error error => simp
  | ok place =>
    cases found : workspace.tree.find? place with
    | none => simp [FileTree.holds?, found]
    | some inner => cases inner <;> simp [FileTree.holds?, FileTree.holding, found]

theorem mem_names_of_holds (leads : workspace.Leads path root)
    (there : (workspace.tree.holds? (root ++ [name])).isSome) : name ∈ workspace.names path := by
  obtain ⟨entries, found⟩ := FileTree.holds?_directory_iff.mp leads.2
  rw [FileTree.isSome_holds?, FileTree.find?_append, found] at there
  rw [names, at?, leads.1]
  simp only [found]
  cases known : entries.lookup name with
  | none => simp [FileTree.find?, known] at there
  | some inner =>
    obtain ⟨before, behind, rfl, -⟩ := List.lookup_eq_some_iff.mp known
    exact List.mem_map_of_mem (List.mem_append_right _ List.mem_cons_self)

/-- There is a file of this name in the directory at a place, and the name is not too long. -/
def HasFile (workspace : Workspace) (root : Place) (name : String) : Prop :=
  name.utf8ByteSize ≤ FileTree.nameLimit ∧
    ∃ content, workspace.tree.holds? (root ++ [name]) = some (.file content)

theorem isFile_of_step (inside : workspace.tree.holds? root = some .directory) (plain : Path.IsPlain name)
    (known : workspace.place path =
      if pathLimit ≤ path.text.utf8ByteSize then .error .nameTooLong
      else workspace.tree.step root name.toList) :
    workspace.isFile path ∧ workspace.place path = .ok place ↔
      workspace.HasFile root name ∧ path.text.utf8ByteSize < pathLimit ∧ place = root ++ [name] := by
  rw [isFile_iff, known, FileTree.step_of_name inside plain.1, String.ofList_toList, HasFile]
  by_cases long : pathLimit ≤ path.text.utf8ByteSize
  · rw [if_pos long]
    exact iff_of_false (fun placed => by cases placed.2) fun short => Nat.not_le.mpr short.2.1 long
  rw [if_neg long]
  by_cases wide : FileTree.nameLimit < name.utf8ByteSize
  · rw [if_pos wide]
    exact iff_of_false (fun placed => by cases placed.2) fun narrow => Nat.not_le.mpr wide narrow.1.1
  rw [if_neg wide]
  constructor
  · rintro ⟨⟨other, content, placed', held⟩, placed⟩
    obtain rfl := Except.ok.inj (placed'.symm.trans placed)
    split at placed
    · cases placed
      exact ⟨⟨Nat.le_of_not_lt wide, content, held⟩, Nat.lt_of_not_le long, rfl⟩
    · cases placed
  · rintro ⟨⟨-, content, held⟩, -, rfl⟩
    have there : (workspace.tree.holds? (root ++ [name])).isSome := by
      rw [held]
      rfl
    rw [if_pos there]
    exact ⟨⟨_, content, rfl, held⟩, rfl⟩

end Workspace

namespace Command

/-- An argument selects the file at a place, in whatever spelling. -/
def SelectsFile (workspace : Workspace) (argument : String) (place : Place) : Prop :=
  ∃ path, Selects workspace argument path ∧ workspace.place path = .ok place

section Directory

variable {workspace : Workspace} {directory : String} {root place : Place}

theorem selectsFile_directory (plain : workspace.tree.HasPlainNames) (leads : workspace.Leads ⟨directory⟩ root) :
    SelectsFile workspace directory place ↔
      ∃ stem, stem ≠ "" ∧ workspace.HasFile root (stem ++ ".json") ∧
        (Path.join ⟨directory⟩ (stem ++ ".json")).text.utf8ByteSize < Workspace.pathLimit ∧
        place = root ++ [stem ++ ".json"] := by
  have isDirectory := Workspace.isDirectory_iff.mpr ⟨root, leads⟩
  have entry {name : String} (listed : name ∈ workspace.names ⟨directory⟩) :
      workspace.isFile (Path.join ⟨directory⟩ name) ∧
          workspace.place (Path.join ⟨directory⟩ name) = .ok place ↔ _ :=
    have named := Workspace.names_plain plain listed
    Workspace.isFile_of_step leads.2 named (Workspace.place_join leads named)
  constructor
  · rintro ⟨_, selects, placed⟩
    rw [selects_of_isDirectory isDirectory, snapshotsIn, List.mem_filter, List.mem_map] at selects
    obtain ⟨⟨name, listed, rfl⟩, isFile⟩ := selects
    obtain ⟨listed, snapshot⟩ := List.mem_filter.mp listed
    obtain ⟨stem, named, rfl⟩ := isSnapshotName_iff.mp snapshot
    exact ⟨stem, named, (entry listed).mp ⟨isFile, placed⟩⟩
  · rintro ⟨stem, named, file, short⟩
    obtain ⟨-, content, held⟩ := id file
    have listed : stem ++ ".json" ∈ workspace.names ⟨directory⟩ :=
      Workspace.mem_names_of_holds leads (by rw [held]; rfl)
    obtain ⟨isFile, placed⟩ := (entry listed).mpr ⟨file, short⟩
    exact ⟨_, .inside isDirectory named listed isFile, placed⟩

structure IsSpelledOut (workspace : Workspace) (directory : String) (root : Place) : Prop where
  leads : workspace.Leads ⟨directory⟩ root
  ordinary : ∀ letter ∈ directory.toList, Glyph.IsOrdinary letter
  closed : directory.toList.getLast? ≠ some '/'

/-- Where nothing is named `*.json`, the pattern of a directory is not taken for a path. -/
theorem IsSpelledOut.pattern_absent (spelled : IsSpelledOut workspace directory root)
    (free : "*.json" ∉ workspace.names ⟨directory⟩) (place : Place) :
    workspace.place ⟨directory ++ "/*.json"⟩ ≠ .ok place := by
  have joined : Path.join ⟨directory⟩ "*.json" = ⟨directory ++ "/*.json"⟩ := by
    rw [Path.join_of_closed spelled.leads.spelled spelled.closed, String.append_assoc]
    rfl
  have star : Path.IsPlain "*.json" := ⟨⟨by decide, by decide, by decide⟩, by decide⟩
  intro placed
  rw [← joined, Workspace.place_join spelled.leads star, FileTree.step_of_name spelled.leads.2 star.1,
    String.ofList_toList] at placed
  split at placed
  · cases placed
  split at placed
  · cases placed
  split at placed
  · next there => exact free (Workspace.mem_names_of_holds spelled.leads there)
  · cases placed

theorem selectsFile_pattern (plain : workspace.tree.HasPlainNames) (spelled : IsSpelledOut workspace directory root)
    (flowing : Path.IsRelative ⟨directory⟩ → ¬ Path.Stalls (Path.pieces ⟨directory⟩))
    (free : "*.json" ∉ workspace.names ⟨directory⟩) :
    SelectsFile workspace (directory ++ "/*.json") place ↔
      ∃ stem, workspace.HasFile root (stem ++ ".json") ∧
        (Path.respelled ⟨directory⟩).lead.utf8ByteSize + (stem ++ ".json").utf8ByteSize < Workspace.pathLimit ∧
        place = root ++ [stem ++ ".json"] := by
  have absent := spelled.pattern_absent free
  have noFile : ¬ workspace.isFile ⟨directory ++ "/*.json"⟩ := by
    rw [Workspace.isFile_iff]
    rintro ⟨place, -, placed, -⟩
    exact absent place placed
  have noDirectory : ¬ workspace.isDirectory ⟨directory ++ "/*.json"⟩ := by
    rw [Workspace.isDirectory_iff]
    rintro ⟨place, leads⟩
    exact absent place leads.1
  have letters : (directory ++ "/*.json").toList = directory.toList ++ '/' :: '*' :: '.' :: ['j', 's', 'o', 'n'] :=
    String.toList_append
  obtain ⟨pattern, read, found⟩ := Workspace.matching_entries spelled.leads
    spelled.ordinary flowing (Glyph.ordinary_of_all (by decide)) (by decide) letters
  obtain ⟨-, leads, -⟩ := Workspace.search_steps spelled.leads flowing []
  let there := Path.respelled ⟨directory⟩
  have entry {name : String} (listed : name ∈ workspace.names ⟨directory⟩) :
      workspace.isFile (there.child name) ∧ workspace.place (there.child name) = .ok place ↔
        workspace.HasFile root name ∧
          there.lead.utf8ByteSize + name.utf8ByteSize < Workspace.pathLimit ∧ place = root ++ [name] := by
    have named := Workspace.names_plain plain listed
    rw [← Path.size_child leads.spelled]
    exact Workspace.isFile_of_step leads.2 named
      (Workspace.place_child leads.1 named.2 fun _ empty => named.1.1 (empty ▸ rfl))
  constructor
  · rintro ⟨path, selects, placed⟩
    rw [selects_of_read noFile noDirectory read, found] at selects
    obtain ⟨isFile, name, listed, ends, rfl⟩ := selects
    obtain ⟨stem, rfl⟩ := (@Text.suffix_iff name ".json").mp ends
    exact ⟨stem, (entry listed).mp ⟨isFile, placed⟩⟩
  · rintro ⟨stem, file, short⟩
    obtain ⟨-, content, held⟩ := id file
    have listed : stem ++ ".json" ∈ workspace.names ⟨directory⟩ :=
      Workspace.mem_names_of_holds spelled.leads (by rw [held]; rfl)
    obtain ⟨isFile, placed⟩ := (entry listed).mpr ⟨file, short⟩
    refine ⟨_, (selects_of_read noFile noDirectory read).mpr ((found _).mpr ⟨isFile, _, listed, ?_, rfl⟩), placed⟩
    exact (@Text.suffix_iff _ ".json").mpr ⟨stem, rfl⟩

/-- A directory selects the files that its `*.json` pattern selects, but for the one that is named by
the extension alone, and for those whose paths are too long behind the directory. Hidden files
and names with several dots are no exceptions, and directories are selected by neither. The
pattern must not be the path of something itself, and the directory must not begin with `.//`. -/
theorem directory_selects_as_pattern (plain : workspace.tree.HasPlainNames)
    (spelled : IsSpelledOut workspace directory root)
    (flowing : Path.IsRelative ⟨directory⟩ → ¬ Path.Stalls (Path.pieces ⟨directory⟩))
    (free : "*.json" ∉ workspace.names ⟨directory⟩) :
    (∀ place, SelectsFile workspace directory place ↔
        SelectsFile workspace (directory ++ "/*.json") place ∧
          ∃ name, name ≠ ".json" ∧ place = root ++ [name] ∧
            (Path.join ⟨directory⟩ name).text.utf8ByteSize < Workspace.pathLimit) ∧
      (∀ stem, workspace.HasFile root (stem ++ ".json") →
        (Path.join ⟨directory⟩ (stem ++ ".json")).text.utf8ByteSize < Workspace.pathLimit →
          SelectsFile workspace (directory ++ "/*.json") (root ++ [stem ++ ".json"]) ∧
            (SelectsFile workspace directory (root ++ [stem ++ ".json"]) ↔ stem ≠ "")) ∧
      ∀ place, SelectsFile workspace directory place ∨ SelectsFile workspace (directory ++ "/*.json") place →
        ∃ stem, workspace.HasFile root (stem ++ ".json") ∧ place = root ++ [stem ++ ".json"] := by
  have unnamed {stem : String} : stem ≠ "" ↔ stem ++ ".json" ≠ ".json" := not_congr Text.append_eq_iff.symm
  have last {name name' : String} (same : root ++ [name] = root ++ [name']) : name = name' :=
    List.singleton_inj.mp (List.append_cancel_left same)
  -- The pattern spells no path longer than the directory does.
  have shorter {name : String}
      (short : (Path.join ⟨directory⟩ name).text.utf8ByteSize < Workspace.pathLimit) :
      (Path.respelled ⟨directory⟩).lead.utf8ByteSize + name.utf8ByteSize < Workspace.pathLimit := by
    obtain ⟨-, -, bounded⟩ := Workspace.search_steps spelled.leads flowing []
    rw [Path.join_of_closed spelled.leads.spelled spelled.closed, String.utf8ByteSize_append,
      String.utf8ByteSize_append] at short
    exact Nat.lt_of_le_of_lt (Nat.add_le_add_right bounded _) short
  refine ⟨fun place => ?_, fun stem file short => ?_, fun place => ?_⟩
  · rw [selectsFile_directory plain spelled.leads, selectsFile_pattern plain spelled flowing free]
    constructor
    · rintro ⟨stem, named, file, short, rfl⟩
      exact ⟨⟨stem, file, shorter short, rfl⟩, _, unnamed.mp named, rfl, short⟩
    · rintro ⟨⟨stem, file, -, rfl⟩, name, named, same, short⟩
      rw [← last same] at named short
      exact ⟨stem, unnamed.mpr named, file, short, rfl⟩
  · rw [selectsFile_directory plain spelled.leads, selectsFile_pattern plain spelled flowing free]
    refine ⟨⟨stem, file, shorter short, rfl⟩, ?_, fun named => ⟨stem, named, file, short, rfl⟩⟩
    rintro ⟨other, named, -, -, same⟩
    rw [unnamed] at named ⊢
    rwa [last same]
  · rw [selectsFile_directory plain spelled.leads, selectsFile_pattern plain spelled flowing free]
    rintro (⟨stem, -, file, -, rfl⟩ | ⟨stem, file, -, rfl⟩)
    · exact ⟨stem, file, rfl⟩
    · exact ⟨stem, file, rfl⟩

end Directory

/-- A directory with snapshots whose names have dots in them, and a directory that is named like a
snapshot. -/
def dotted : Workspace where
  tree := .directory [("d", .directory [(".json", .file .empty), (".a.b.json", .file .empty),
    ("c.json", .directory [("e.json", .file .empty)])])]
  home := []

/-- The hidden snapshot is selected both ways, the one without a name by the pattern, and the directory
by neither. -/
theorem directory_selects_as_pattern_dotted :
    SelectsFile dotted "./d" ["d", ".a.b.json"] ∧ SelectsFile dotted "./d/*.json" ["d", ".a.b.json"] ∧
      ¬ SelectsFile dotted "./d" ["d", ".json"] ∧ SelectsFile dotted "./d/*.json" ["d", ".json"] ∧
      ¬ SelectsFile dotted "./d" ["d", "c.json"] ∧ ¬ SelectsFile dotted "./d/*.json" ["d", "c.json"] := by
  have plain : dotted.tree.HasPlainNames := by
    simp [dotted, FileTree.HasPlainNames, FileTree.HavePlainNames, Path.IsPlain, FileTree.IsName]
  have spelled : IsSpelledOut dotted "./d" ["d"] :=
    ⟨⟨rfl, rfl⟩, Glyph.ordinary_of_all (by decide), by decide⟩
  obtain ⟨-, files, only⟩ := directory_selects_as_pattern plain spelled (fun _ => id) (by decide +kernel)
  have hidden := files ".a.b" ⟨by decide, _, rfl⟩ (by decide)
  have unnamed := files "" ⟨by decide, _, rfl⟩ (by decide)
  have directory : ¬ ∃ stem, dotted.HasFile ["d"] (stem ++ ".json") ∧
      ["d", "c.json"] = ["d"] ++ [stem ++ ".json"] := by
    rintro ⟨stem, ⟨-, content, held⟩, same⟩
    rw [← same] at held
    cases held
  exact ⟨hidden.2.mpr (by decide), hidden.1, fun selected => unnamed.2.mp selected rfl, unnamed.1,
    fun selected => directory (only _ (.inl selected)), fun selected => directory (only _ (.inr selected))⟩

/-- Only for the name `.json` it makes a difference whether a directory or its pattern is given. -/
def SelectsAlike (workspace : Workspace) (directory : String) : Prop :=
  ∀ place, SelectsFile workspace directory place ↔
    SelectsFile workspace (directory ++ "/*.json") place ∧ place.getLast? ≠ some ".json"

/-- A directory in which a file is named like a pattern. -/
def starred : Workspace where
  tree := .directory [("in", .directory [("*.json", .file .empty), ("x.json", .file .empty)])]
  home := []

def single : Workspace where
  tree := .directory [("in", .directory [("x.json", .file .empty)])]
  home := []

/-- A way to the directory that goes out of it again some times. -/
def detour : Nat → String
  | 0 => "in"
  | count + 1 => "in/../" ++ detour count

section Detour

theorem toList_detour_succ (count : Nat) :
    (detour (count + 1)).toList = "in/../".toList ++ (detour count).toList := String.toList_append

theorem size_detour (count : Nat) : (detour count).utf8ByteSize = 6 * count + 2 := by
  induction count with
  | zero => rfl
  | succ count ih =>
    have step : "in/../".utf8ByteSize = 6 := rfl
    rw [detour, String.utf8ByteSize_append, ih, step]
    omega

theorem ordinary_detour (count : Nat) : ∀ letter ∈ (detour count).toList, Glyph.IsOrdinary letter := by
  induction count with
  | zero => exact Glyph.ordinary_of_all (by decide)
  | succ count ih =>
    rw [toList_detour_succ]
    exact List.forall_mem_append.mpr ⟨Glyph.ordinary_of_all (by decide), ih⟩

theorem getLast?_detour (count : Nat) : (detour count).toList.getLast? = some 'n' := by
  induction count with
  | zero => rfl
  | succ count ih =>
    rw [toList_detour_succ, List.getLast?_append, ih]
    rfl

theorem isRelative_detour (count : Nat) : Path.IsRelative ⟨detour count⟩ := by
  cases count with
  | zero =>
    rw [Path.IsRelative]
    decide
  | succ count =>
    rw [Path.IsRelative, toList_detour_succ]
    intro slash
    cases slash

theorem pieces_detour_succ (count : Nat) :
    Path.pieces ⟨detour (count + 1)⟩ = ['i', 'n'] :: ['.', '.'] :: Path.pieces ⟨detour count⟩ := by
  have outwards := Text.split_append_cons (show '/' ∉ ['.', '.'] by decide) (detour count).toList
  rw [Path.pieces, toList_detour_succ]
  exact (Text.split_append_cons (show '/' ∉ ['i', 'n'] by decide) _).trans (congrArg _ outwards)

theorem walk_detour (count : Nat) : single.tree.walk (Path.pieces ⟨detour count⟩) [] = .ok ["in"] := by
  induction count with
  | zero => rfl
  | succ count ih =>
    rw [pieces_detour_succ]
    exact ih

theorem not_stalls_detour (count : Nat) : ¬ Path.Stalls (Path.pieces ⟨detour count⟩) := by
  cases count with
  | zero => exact id
  | succ count =>
    rw [pieces_detour_succ]
    exact id

theorem leads_detour {count : Nat} (short : count < 682) : single.Leads ⟨detour count⟩ ["in"] := by
  refine ⟨Workspace.place_eq_ok_iff.mpr ⟨?_, ?_, ?_⟩, rfl⟩
  · intro empty
    have size := size_detour count
    rw [show detour count = "" from empty] at size
    cases size
  · rw [size_detour, Workspace.pathLimit]
    omega
  · rw [Workspace.start, if_neg (isRelative_detour count)]
    exact walk_detour count

theorem isSpelledOut_detour {count : Nat} (short : count < 682) :
    IsSpelledOut single ("./" ++ detour count) ["in"] where
  leads := by
    refine ⟨Workspace.place_eq_ok_iff.mpr ⟨?_, ?_, ?_⟩, rfl⟩
    · intro empty
      have letters := Path.toList_dot (detour count)
      rw [show "./" ++ detour count = "" from empty] at letters
      cases letters
    · have dot : "./".utf8ByteSize = 2 := rfl
      rw [String.utf8ByteSize_append, size_detour, Workspace.pathLimit, dot]
      omega
    · rw [Workspace.start, if_neg (Path.isRelative_dot _), Path.pieces_dot]
      exact walk_detour count
  ordinary := by
    rw [String.toList_append]
    exact List.forall_mem_append.mpr ⟨Glyph.ordinary_of_all (by decide), ordinary_detour count⟩
  closed := by
    rw [String.toList_append, List.getLast?_append, getLast?_detour]
    decide

theorem plain_single : single.tree.HasPlainNames := by
  simp [single, FileTree.HasPlainNames, FileTree.HavePlainNames, Path.IsPlain, FileTree.IsName]

/-- The longest way that can be followed is too long for names behind it, but not for those of the
pattern. -/
theorem not_selectsAlike_detour {count : Nat} (longest : count = 681) :
    ¬ SelectsAlike single ("./" ++ detour count) := by
  intro alike
  have short : count < 682 := by omega
  have spelled := isSpelledOut_detour short
  have named : ("x" ++ ".json").utf8ByteSize = 6 := rfl
  have limit : Workspace.pathLimit = 4096 := rfl
  have free : "*.json" ∉ single.names ⟨"./" ++ detour count⟩ := by
    rw [Workspace.names, Workspace.at?, spelled.leads.1]
    decide
  have matched : SelectsFile single ("./" ++ detour count ++ "/*.json") ["in", "x.json"] := by
    refine (selectsFile_pattern plain_single spelled ?_ free).mpr ⟨"x", ⟨by decide, _, rfl⟩, ?_, rfl⟩
    · intro _
      rw [Path.pieces_dot]
      exact not_stalls_detour count
    · obtain ⟨-, -, bounded⟩ := Workspace.search_steps (leads_detour short)
        (fun _ => not_stalls_detour count) []
      rw [size_detour] at bounded
      rw [Path.respelled_dot (isRelative_detour count), named, limit]
      omega
  obtain ⟨stem, -, -, fits, same⟩ :=
    (selectsFile_directory plain_single spelled.leads).mp ((alike _).mpr ⟨matched, by decide⟩)
  have itself : "x" ++ ".json" = stem ++ ".json" := List.singleton_inj.mp (List.cons_inj_right _ |>.mp same)
  have dot : "./".utf8ByteSize = 2 := rfl
  have slash : "/".utf8ByteSize = 1 := rfl
  rw [← itself, Path.join_of_closed spelled.leads.spelled spelled.closed, String.utf8ByteSize_append,
    String.utf8ByteSize_append, String.utf8ByteSize_append, size_detour, named, limit, dot, slash] at fits
  omega

end Detour

/-- Each of the exceptions is one: a pattern that is the name of a file stands for that file, behind
`.//` a pattern stands for nothing, and behind `./` its paths are two letters shorter than those
of the directory. -/
theorem directory_parts_from_pattern :
    (starred.tree.HasPlainNames ∧ IsSpelledOut starred "in" ["in"] ∧ ¬ SelectsAlike starred "in") ∧
      (single.tree.HasPlainNames ∧ IsSpelledOut single ".//in" ["in"] ∧ ¬ SelectsAlike single ".//in") ∧
      IsSpelledOut single ("./" ++ detour 681) ["in"] ∧ ¬ SelectsAlike single ("./" ++ detour 681) := by
  have plain := plain_single
  have plain' : starred.tree.HasPlainNames := by
    simp [starred, FileTree.HasPlainNames, FileTree.HavePlainNames, Path.IsPlain, FileTree.IsName]
  have spelled : IsSpelledOut starred "in" ["in"] := ⟨⟨rfl, rfl⟩, Glyph.ordinary_of_all (by decide), by decide⟩
  have slashes : IsSpelledOut single ".//in" ["in"] :=
    ⟨⟨rfl, rfl⟩, Glyph.ordinary_of_all (by decide), by decide⟩
  have long := isSpelledOut_detour (show 681 < 682 by decide)
  refine ⟨⟨plain', spelled, fun alike => ?_⟩, ⟨plain, slashes, fun alike => ?_⟩, long, not_selectsAlike_detour rfl⟩
  · have selected : SelectsFile starred "in" ["in", "x.json"] :=
      (selectsFile_directory plain' spelled.leads).mpr ⟨"x", by decide, ⟨by decide, _, rfl⟩, by decide, rfl⟩
    obtain ⟨⟨path, selects, placed⟩, -⟩ := (alike _).mp selected
    obtain rfl := (selects_of_isFile (by decide)).mp selects
    have itself : starred.place ⟨"in/*.json"⟩ = .ok ["in", "*.json"] := rfl
    exact absurd (Except.ok.inj (itself.symm.trans placed)) (by decide)
  · have selected : SelectsFile single ".//in" ["in", "x.json"] :=
      (selectsFile_directory plain slashes.leads).mpr ⟨"x", by decide, ⟨by decide, _, rfl⟩, by decide, rfl⟩
    obtain ⟨⟨path, selects, -⟩, -⟩ := (alike _).mp selected
    have selects : Selects single ".//in/*.json" path := selects
    have read : Pattern.read ".//in/*.json" = .ok {
        fromTop := false
        levels := [.literal ".", .literal "", .literal "in", Pattern.extended ".json".toList]
        directoriesOnly := false } := by
      decide +kernel
    rw [selects_of_read (by decide) (by decide) read] at selects
    have nothing : single.matching {
        fromTop := false
        levels := [.literal ".", .literal "", .literal "in", Pattern.extended ".json".toList]
        directoriesOnly := false } = [] := by
      decide +kernel
    rw [nothing] at selects
    cases selects

end Command

end ComponentDocs
