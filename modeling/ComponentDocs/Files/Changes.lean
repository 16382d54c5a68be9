import ComponentDocs.Files.Workspace

/-! How two states of a workspace differ. -/
namespace ComponentDocs.Workspace

/-- The files and directories below `root` that are new in `after` or have other content
there than in `before`: each file with its content, each directory before what is in
it. -/
def changes (root : Path) (before after : Workspace) : List (Path × Option ByteArray) :=
  (after.inside root).filterMap fun (_, path) =>
    match after.at? path, before.at? path with
    | some (.file content), some (.file old) =>
      if content.data == old.data then none else some (path, some content)
    | some (.file content), _ => some (path, some content)
    | some (.directory _), some (.directory _) => none
    | some (.directory _), _ => some (path, none)
    | none, _ => none

end ComponentDocs.Workspace
