import ComponentDocs.Files.Path

/-! Trees of files and directories, and walks in them. -/
namespace ComponentDocs

/-- Why a path cannot be followed, or nothing can be made where it leads. -/
inductive FileError
  | notFound
  | occupied
  | notDirectory
  | isDirectory
  | nameTooLong
deriving DecidableEq

def FileError.message : FileError → String
  | .notFound => "No such file or directory (os error 2)"
  | .occupied => "File exists (os error 17)"
  | .notDirectory => "Not a directory (os error 20)"
  | .isDirectory => "Is a directory (os error 21)"
  | .nameTooLong => "File name too long (os error 36)"

inductive FileTree
  | file (content : ByteArray)
  | directory (entries : List (String × FileTree))

namespace FileTree

/-- The place of a file or directory: the names that lead to it from the top. -/
abbrev Place := List String

/-- The longest name, in bytes. -/
def nameLimit : Nat := 255

def empty : FileTree := .directory []

/-- What is at a place. -/
def find? : Place → FileTree → Option FileTree
  | [], tree => some tree
  | _ :: _, .file _ => none
  | name :: place, .directory entries =>
    match entries.lookup name with
    | some tree => find? place tree
    | none => none

/-- Entries with `name` standing for `tree`, at the end if it is new. -/
def setEntry (name : String) (tree : FileTree) :
    List (String × FileTree) → List (String × FileTree)
  | [] => [(name, tree)]
  | (other, old) :: entries =>
    if other = name then (name, tree) :: entries else (other, old) :: setEntry name tree entries

/-- Puts something under a name in the directory at a place. -/
def put (name : String) (new : FileTree) : Place → FileTree → FileTree
  | _, .file content => .file content
  | [], .directory entries => .directory (setEntry name new entries)
  | step :: place, .directory entries =>
    match entries.lookup step with
    | some tree => .directory (setEntry step (put name new place tree) entries)
    | none => .directory entries

/-- One step from a place, which must be a directory. At the top, `..` stays there. -/
def step (tree : FileTree) (here : Place) (piece : List Char) : Except FileError Place :=
  match tree.find? here with
  | none => .error .notFound
  | some (.file _) => .error .notDirectory
  | some (.directory _) =>
    match piece with
    | [] => .ok here
    | ['.'] => .ok here
    | ['.', '.'] => .ok here.dropLast
    | letters =>
      let name := String.ofList letters
      if name.utf8ByteSize > nameLimit then .error .nameTooLong
      else if (tree.find? (here ++ [name])).isSome then .ok (here ++ [name])
      else .error .notFound

/-- The place that a series of steps leads to. -/
def walk (tree : FileTree) : List (List Char) → Place → Except FileError Place
  | [], here => .ok here
  | piece :: pieces, here => (tree.step here piece).bind (tree.walk pieces)

mutual

/-- Everything below a directory: each name with its path, the directory having the
path `here`. -/
def descendants (here : Path) : FileTree → List (String × Path)
  | .file _ => []
  | .directory entries => descendantsOf here entries

def descendantsOf (here : Path) : List (String × FileTree) → List (String × Path)
  | [] => []
  | (name, tree) :: entries =>
    (name, here.child name) :: (tree.descendants (here.child name) ++ descendantsOf here entries)

end

end FileTree

end ComponentDocs
