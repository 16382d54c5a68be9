import ComponentDocs.Files.Tree

/-! What a program sees of the files: a tree, and the directory in it that it works in. -/
namespace ComponentDocs

open FileTree (Place)

structure Workspace where
  tree : FileTree
  home : Place

namespace Workspace

/-- Paths are shorter than this, in bytes. -/
def pathLimit : Nat := 4096

/-- Where a path begins: at the top if its first character is a slash. -/
def start (workspace : Workspace) (path : Path) : Place :=
  if path.text.toList.head? = some '/' then [] else workspace.home

/-- The pieces of a path, unless it is empty or too long to be followed. -/
def piecesOf (path : Path) : Except FileError (List (List Char)) :=
  if path.text.isEmpty then .error .notFound
  else if path.text.utf8ByteSize ≥ pathLimit then .error .nameTooLong
  else .ok path.pieces

/-- The place that a path leads to. -/
def place (workspace : Workspace) (path : Path) : Except FileError Place :=
  (piecesOf path).bind fun pieces => workspace.tree.walk pieces (workspace.start path)

def at? (workspace : Workspace) (path : Path) : Option FileTree :=
  match workspace.place path with
  | .ok place => workspace.tree.find? place
  | .error _ => none

def contains (workspace : Workspace) (path : Path) : Bool := (workspace.at? path).isSome

def isFile (workspace : Workspace) (path : Path) : Bool :=
  match workspace.at? path with
  | some (.file _) => true
  | _ => false

def isDirectory (workspace : Workspace) (path : Path) : Bool :=
  match workspace.at? path with
  | some (.directory _) => true
  | _ => false

def read (workspace : Workspace) (path : Path) : Except FileError ByteArray :=
  (workspace.place path).bind fun place =>
    match workspace.tree.find? place with
    | some (.file content) => .ok content
    | some (.directory _) => .error .isDirectory
    | none => .error .notFound

/-- The names in a directory; none if the path does not lead to one. -/
def names (workspace : Workspace) (path : Path) : List String :=
  match workspace.at? path with
  | some (.directory entries) => entries.map Prod.fst
  | _ => []

/-- Everything below what a path leads to, each name with its path. -/
def inside (workspace : Workspace) (path : Path) : List (String × Path) :=
  match workspace.at? path with
  | some tree => tree.descendants path
  | none => []

/-- The place of the directory in which the last of some pieces is or would be, and
that piece. No pieces at all stand for the top, which is there already. -/
def target (workspace : Workspace) (path : Path) (pieces : List (List Char)) :
    Except FileError (Place × List Char) :=
  match pieces.getLast? with
  | none => .error .occupied
  | some last =>
    (workspace.tree.walk pieces.dropLast (workspace.start path)).map fun place => (place, last)

/-- The workspace with something put under a name in the directory at a place. -/
def put (name : List Char) (new : FileTree) (place : Place) (workspace : Workspace) : Workspace :=
  { workspace with tree := .put (String.ofList name) new place workspace.tree }

/-- Makes one directory. Slashes at the end of the path do not count. -/
def createDirectory (path : Path) (workspace : Workspace) : Except FileError Unit × Workspace :=
  let goal := (piecesOf path).bind fun pieces =>
    workspace.target path (pieces.reverse.dropWhile List.isEmpty).reverse
  match goal with
  | .error error => (.error error, workspace)
  | .ok (place, last) =>
    match workspace.tree.step place last with
    | .ok _ => (.error .occupied, workspace)
    | .error .notFound => (.ok (), workspace.put last .empty place)
    | .error error => (.error error, workspace)

/-- Makes the first of some directories, and before that, where it is missing, the
next ones, in which it is. What has been made stays when a later step fails. -/
def createNested : List Path → Workspace → Except FileError Unit × Workspace
  | [], workspace => (.ok (), workspace)
  | path :: outer, workspace =>
    match workspace.createDirectory path with
    | (.ok (), workspace) => (.ok (), workspace)
    | (.error .notFound, workspace) =>
      match createNested outer workspace with
      | (.error error, workspace) => (.error error, workspace)
      | (.ok (), workspace) => settle path (workspace.createDirectory path)
    | outcome => settle path outcome
where
  /-- A directory that is there already will do. -/
  settle (path : Path) : Except FileError Unit × Workspace → Except FileError Unit × Workspace
    | (.ok (), workspace) => (.ok (), workspace)
    | (.error error, workspace) =>
      if workspace.isDirectory path then (.ok (), workspace) else (.error error, workspace)

/-- Makes a directory and those that lead to it, as far as they are missing. -/
def createDirectories (path : Path) (workspace : Workspace) : Except FileError Unit × Workspace :=
  createNested (path :: path.ancestors) workspace

/-- Gives a file new content, and makes it if it is missing. -/
def write (path : Path) (content : ByteArray) (workspace : Workspace) :
    Except FileError Unit × Workspace :=
  match (piecesOf path).bind (workspace.target path) with
  | .error error => (.error error, workspace)
  | .ok (place, last) =>
    match workspace.tree.step place last with
    | .ok here =>
      match workspace.tree.find? here with
      | some (.file _) => (.ok (), workspace.put last (.file content) place)
      | _ => (.error .isDirectory, workspace)
    | .error .notFound => (.ok (), workspace.put last (.file content) place)
    | .error error => (.error error, workspace)

end Workspace

end ComponentDocs
