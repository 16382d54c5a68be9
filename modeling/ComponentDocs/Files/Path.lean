import ComponentDocs.Text.Split

/-! Paths as they are spelled, and the parts that a spelling comes down to. Spellings
with equal parts name the same thing, and the parts decide the order of paths. -/
namespace ComponentDocs

/-- A path keeps its spelling, which is what reports show. -/
structure Path where
  text : String
deriving DecidableEq

namespace Path

inductive Part
  | root
  | current
  | parent
  | name (text : String)
deriving DecidableEq

namespace Part

def rank : Part → Nat
  | .root => 0
  | .current => 1
  | .parent => 2
  | .name _ => 3

def text : Part → String
  | .root => ""
  | .current => "."
  | .parent => ".."
  | .name text => text

/-- Names come last, by their characters. -/
instance : Ord Part := ⟨compareLex (compareOn rank) (compareOn text)⟩

/-- What a piece of a path stands for. Empty pieces, and `.` behind other pieces, stand
for nothing. -/
def ofPiece? : List Char → Option Part
  | [] => none
  | ['.'] => none
  | ['.', '.'] => some .parent
  | letters => some (.name (String.ofList letters))

end Part

/-- The pieces between the slashes, empty ones included. -/
def pieces (path : Path) : List (List Char) := Text.split '/' path.text.toList

/-- A slash at the beginning stands for the top of the tree, a `.` there for the
working directory. -/
def parts (path : Path) : List Part :=
  match path.text.toList with
  | '/' :: letters => .root :: (Text.split '/' letters).filterMap Part.ofPiece?
  | letters =>
    match Text.split '/' letters with
    | ['.'] :: pieces => .current :: pieces.filterMap Part.ofPiece?
    | pieces => pieces.filterMap Part.ofPiece?

instance : Ord Path := ⟨compareOn parts⟩

/-- The path of a name below a directory. The separator is added unless it is there. -/
def join (directory : Path) (name : String) : Path :=
  match directory.text.toList.getLast? with
  | none => ⟨name⟩
  | some last => if last = '/' then ⟨directory.text ++ name⟩ else ⟨directory.text ++ "/" ++ name⟩

/-- As `join`, but names below `.` stand alone. -/
def child (directory : Path) (name : String) : Path :=
  if directory.parts = [.current] then ⟨name⟩ else directory.join name

def ofParts : List Part → Path
  | .root :: parts => ⟨"/" ++ String.intercalate "/" (parts.map Part.text)⟩
  | parts => ⟨String.intercalate "/" (parts.map Part.text)⟩

/-- The directories that lead to a path, the nearest first. -/
def ancestors (path : Path) : List Path :=
  ((List.range path.parts.length).drop 1).reverse.map fun count => ofParts (path.parts.take count)

/-- Adds a path to an ordered list, unless one with the same parts is there. -/
def insert (path : Path) : List Path → List Path
  | [] => [path]
  | other :: paths =>
    match compare path other with
    | .lt => path :: other :: paths
    | .eq => other :: paths
    | .gt => other :: insert path paths

end Path

end ComponentDocs
