import ComponentDocs.Proofs.Files.Relative

/-! The parts of paths that are made of others: a name below a directory adds a part to those of
the directory, and the directories that lead to a path have the parts that it begins with. -/
namespace ComponentDocs

open FileTree (IsName)

theorem Text.split_intercalate {separator : Char} {pieces : List (List Char)} (filled : pieces ≠ [])
    (free : ∀ piece ∈ pieces, separator ∉ piece) :
    split separator ([separator].intercalate pieces) = pieces := by
  induction pieces with
  | nil => exact absurd rfl filled
  | cons piece pieces ih =>
    obtain ⟨first, others⟩ := List.forall_mem_cons.mp free
    cases pieces with
    | nil => rw [List.intercalate_singleton, split_of_not_mem first]
    | cons next rest =>
      rw [List.intercalate_cons_cons, List.append_assoc, List.singleton_append, split_append_cons first,
        ih (List.cons_ne_nil _ _) others]

theorem Text.head?_intercalate {separator piece : List Char} (filled : piece ≠ [])
    (others : List (List Char)) : (separator.intercalate (piece :: others)).head? = piece.head? := by
  cases others with
  | nil => rw [List.intercalate_singleton]
  | cons next rest =>
    rw [List.intercalate_cons_cons, List.append_assoc, List.head?_append_of_ne_nil _ filled]

/-- The bytes that some pieces take, each with a separator of one byte. -/
def Text.size : List (List Char) → Nat
  | [] => 0
  | piece :: pieces => (String.ofList piece).utf8ByteSize + 1 + size pieces

theorem Text.size_split {separator : Char} (narrow : separator.utf8Size = 1) (text : List Char) :
    size (split separator text) = (String.ofList text).utf8ByteSize + 1 := by
  induction text with
  | nil => rfl
  | cons c rest ih =>
    rw [split_cons, String.ofList_cons, String.utf8ByteSize_append, String.utf8ByteSize_singleton]
    split
    · next same =>
      have nothing : (String.ofList []).utf8ByteSize = 0 := rfl
      rw [size, ih, same, narrow, nothing]
      omega
    · rw [split, size] at ih
      rw [size, String.ofList_cons, String.utf8ByteSize_append, String.utf8ByteSize_singleton]
      omega

namespace Path

/-- What a path goes through behind its beginning, which is the top if it begins with a slash. -/
def steps (path : Path) : List (List Char) :=
  Text.split '/' (if path.text.toList.head? = some '/' then path.text.toList.drop 1 else path.text.toList)

theorem steps_of_relative {path : Path} (relative : path.IsRelative) : path.steps = path.pieces := by
  rw [steps, if_neg relative, pieces]

theorem pieces_of_top {path : Path} (top : path.text.toList.head? = some '/') :
    path.pieces = [] :: path.steps := by
  obtain ⟨letters, spelled⟩ := List.head?_eq_some_iff.mp top
  rw [steps, if_pos top, pieces, spelled]
  exact Text.split_append_cons List.not_mem_nil letters

theorem mem_of_mem_steps {path : Path} {piece : List Char} (inside : piece ∈ path.steps) {c : Char}
    (there : c ∈ piece) : c ∈ path.text.toList := by
  have known := Text.mem_of_mem_split inside there
  split at known
  · exact List.mem_of_mem_drop known
  · exact known

/-- The steps of a path, each with a slash, take as many bytes as the path with a slash. -/
theorem size_steps (path : Path) :
    (if path.text.toList.head? = some '/' then 1 else 0) + Text.size path.steps = path.text.utf8ByteSize + 1 := by
  rw [steps, Text.size_split (by decide)]
  split
  · next top =>
    obtain ⟨letters, spelled⟩ := List.head?_eq_some_iff.mp top
    have size : path.text.utf8ByteSize = 1 + (String.ofList letters).utf8ByteSize := by
      rw [← String.ofList_toList (s := path.text), spelled, String.ofList_cons, String.utf8ByteSize_append,
        String.utf8ByteSize_singleton]
      rfl
    rw [size, spelled, List.drop_one, List.tail_cons]
    omega
  · rw [String.ofList_toList, Nat.zero_add]

namespace Part

/-- A part that some piece of a path stands for: a name, or `..`. -/
def IsInner (part : Part) : Prop := ofPiece? part.text.toList = some part ∧ '/' ∉ part.text.toList

theorem isInner_of_piece {piece : List Char} {part : Part} (stands : ofPiece? piece = some part)
    (free : '/' ∉ piece) : part.IsInner := by
  unfold ofPiece? at stands
  split at stands
  · cases stands
  · cases stands
  · cases stands
    exact ⟨rfl, by decide⟩
  · next filled notHere notUp =>
    cases stands
    rw [IsInner, text, String.toList_ofList]
    exact ⟨ofPiece?_of_isName ⟨filled, notHere, notUp⟩, free⟩

theorem IsInner.filled {part : Part} (inner : part.IsInner) : part.text.toList ≠ [] := by
  intro empty
  have stands := inner.1
  rw [empty] at stands
  cases stands

theorem IsInner.not_current {part : Part} (inner : part.IsInner) : part.text.toList ≠ ['.'] := by
  intro dot
  have stands := inner.1
  rw [dot] at stands
  cases stands

end Part

/-- The parts of a path: behind a beginning, names and `..`. -/
inductive AreParts : List Part → Prop
  | inner {parts : List Part} (inner : ∀ part ∈ parts, part.IsInner) : AreParts parts
  | root {parts : List Part} (inner : ∀ part ∈ parts, part.IsInner) : AreParts (.root :: parts)
  | current {parts : List Part} (inner : ∀ part ∈ parts, part.IsInner) : AreParts (.current :: parts)

theorem AreParts.take {parts : List Part} (areParts : AreParts parts) (count : Nat) :
    AreParts (parts.take count) := by
  cases count with
  | zero => exact .inner (List.forall_mem_nil _)
  | succ count =>
    have within {rest : List Part} (inner : ∀ part ∈ rest, part.IsInner) (count : Nat) :
        ∀ part ∈ rest.take count, part.IsInner :=
      fun part inside => inner part (List.mem_of_mem_take inside)
    cases areParts with
    | inner inner => exact .inner (within inner _)
    | root inner => exact .root (within inner _)
    | current inner => exact .current (within inner _)

theorem parts_of_top {path : Path} (top : path.text.toList.head? = some '/') :
    path.parts = .root :: path.pieces.filterMap Part.ofPiece? := by
  obtain ⟨letters, spelled⟩ := List.head?_eq_some_iff.mp top
  rw [pieces_of_top top, steps, if_pos top, parts, spelled]
  rfl

theorem areParts (path : Path) : AreParts path.parts := by
  have inner : ∀ part ∈ path.pieces.filterMap Part.ofPiece?, part.IsInner := by
    intro part inside
    obtain ⟨piece, there, stands⟩ := List.mem_filterMap.mp inside
    exact Part.isInner_of_piece stands (Text.not_mem_split there)
  by_cases top : path.text.toList.head? = some '/'
  · rw [parts_of_top top]
    exact .root inner
  · rw [IsRelative.parts_eq top]
    split
    · exact .current inner
    · exact .inner inner

theorem filterMap_texts {parts : List Part} (inner : ∀ part ∈ parts, part.IsInner) :
    (parts.map (String.toList ∘ Part.text)).filterMap Part.ofPiece? = parts := by
  rw [List.filterMap_map]
  exact (List.filterMap_congr fun part inside => (inner part inside).1).trans List.filterMap_some

theorem split_texts {first : Part} {rest : List Part}
    (free : ∀ part ∈ first :: rest, '/' ∉ part.text.toList) :
    Text.split '/' (String.intercalate "/" ((first :: rest).map Part.text)).toList =
      (first :: rest).map (String.toList ∘ Part.text) := by
  rw [String.toList_intercalate, List.map_map]
  refine Text.split_intercalate (List.cons_ne_nil _ _) fun piece inside => ?_
  obtain ⟨part, there, rfl⟩ := List.mem_map.mp inside
  exact free part there

theorem parts_texts {first : Part} {rest : List Part} (filled : first.text.toList ≠ [])
    (free : ∀ part ∈ first :: rest, '/' ∉ part.text.toList) :
    parts ⟨String.intercalate "/" ((first :: rest).map Part.text)⟩ =
      (if first.text.toList = ['.'] then [.current] else []) ++
        ((first :: rest).map (String.toList ∘ Part.text)).filterMap Part.ofPiece? := by
  have begins : IsRelative ⟨String.intercalate "/" ((first :: rest).map Part.text)⟩ := by
    have head : ("/".toList.intercalate ((first :: rest).map (String.toList ∘ Part.text))).head? = _ :=
      Text.head?_intercalate filled _
    rw [IsRelative, String.toList_intercalate, List.map_map]
    exact fun slash => free first List.mem_cons_self (List.mem_of_head? (head.symm.trans slash))
  rw [begins.parts_eq, pieces, split_texts free]
  simp

theorem parts_ofParts {parts : List Part} (areParts : AreParts parts) : (ofParts parts).parts = parts := by
  cases areParts with
  | @root parts inner =>
    have spelled : (ofParts (.root :: parts)).text.toList =
        '/' :: (String.intercalate "/" (parts.map Part.text)).toList := by
      rw [ofParts, String.toList_append]
      rfl
    rw [Path.parts, spelled]
    cases parts with
    | nil => rfl
    | cons first rest =>
      have stands := filterMap_texts inner
      rw [← split_texts fun part inside => (inner part inside).2] at stands
      exact congrArg _ stands
  | @current parts inner =>
    have free : ∀ part ∈ Part.current :: parts, '/' ∉ part.text.toList :=
      List.forall_mem_cons.mpr ⟨by decide, fun part inside => (inner part inside).2⟩
    refine (parts_texts (by decide) free).trans ?_
    exact congrArg _ (filterMap_texts inner)
  | inner inner =>
    cases parts with
    | nil => rfl
    | cons first rest =>
      have here := inner first List.mem_cons_self
      have known : ofParts (first :: rest) = ⟨String.intercalate "/" ((first :: rest).map Part.text)⟩ := by
        rw [ofParts]
        rintro others ⟨⟩
        exact here.filled rfl
      rw [known, parts_texts here.filled fun part inside => (inner part inside).2, if_neg here.not_current,
        filterMap_texts inner, List.nil_append]

/-- The directories that lead to a path have parts that those of the path begin with. -/
theorem parts_prefix {path outer : Path} (leading : outer ∈ path :: path.ancestors) :
    outer.parts <+: path.parts := by
  rcases List.mem_cons.mp leading with rfl | before
  · exact List.prefix_rfl
  · obtain ⟨count, -, rfl⟩ := List.mem_map.mp before
    rw [parts_ofParts (path.areParts.take count)]
    exact List.take_prefix count path.parts

theorem pieces_ne_of_spelled {path : Path} (spelled : path.text ≠ "") : path.pieces ≠ [[]] := by
  intro alone
  have slashes := Text.length_split '/' path.text.toList
  rw [show Text.split '/' path.text.toList = [[]] from alone, List.length_singleton] at slashes
  have free : '/' ∉ path.text.toList := List.count_eq_zero.mp (by omega)
  rw [pieces, Text.split_of_not_mem free] at alone
  exact spelled (String.toList_eq_nil_iff.mp (List.singleton_inj.mp alone))

theorem parts_join_piece {directory : Path} {piece : String} (spelled : directory.text ≠ "")
    (inner : '/' ∉ piece.toList) :
    (directory.join piece).parts = directory.parts ++ (Part.ofPiece? piece.toList).toList := by
  obtain ⟨front, joined, parted⟩ := pieces_join spelled inner
  have stands : (directory.join piece).pieces.filterMap Part.ofPiece? =
      directory.pieces.filterMap Part.ofPiece? ++ (Part.ofPiece? piece.toList).toList := by
    have last : [piece.toList].filterMap Part.ofPiece? = (Part.ofPiece? piece.toList).toList :=
      List.filterMap_cons.trans (by cases Part.ofPiece? piece.toList <;> rfl)
    rw [joined, List.filterMap_append, last]
    rcases parted with same | ended
    · rw [same]
    · rw [ended, List.filterMap_append]
      exact congrArg (· ++ _) (List.append_nil _).symm
  by_cases top : directory.text.toList.head? = some '/'
  · rw [parts_of_top top, parts_of_top ((head?_join piece spelled).trans top), stands, List.cons_append]
  · have begins : directory.IsRelative := top
    have begins' : (directory.join piece).IsRelative := by
      rwa [IsRelative, head?_join piece spelled]
    have first : (directory.join piece).pieces.head? = directory.pieces.head? := by
      rw [joined]
      cases front with
      | nil =>
        rcases parted with same | alone
        · cases same
        · exact absurd alone (pieces_ne_of_spelled spelled)
      | cons first front => rcases parted with same | ended <;> simp [*]
    rw [begins.parts_eq, begins'.parts_eq, stands, first, List.append_assoc]

theorem parts_join (directory : Path) {name : String} (plain : IsPlain name) :
    (directory.join name).parts = directory.parts ++ [.name name] := by
  have named : Part.ofPiece? name.toList = some (.name name) := by
    rw [Part.ofPiece?_of_isName plain.1, String.ofList_toList]
  by_cases spelled : directory.text = ""
  · have joined : directory.join name = ⟨name⟩ := by
      rw [join, spelled]
      rfl
    have empty : directory.parts = [] := by
      rw [parts, spelled]
      rfl
    have begins : IsRelative ⟨name⟩ := plain.head?
    rw [joined, empty, begins.parts_eq, pieces_of_name plain.2, List.head?_cons,
      if_neg (fun dot => plain.1.2.1 (Option.some.inj dot)), List.filterMap_cons_some named]
    rfl
  · rw [parts_join_piece spelled plain.2, named]
    rfl

end Path

end ComponentDocs
