import ComponentDocs.Files.Pattern
import ComponentDocs.Files.Workspace

/-! What a pattern stands for in a workspace. -/
namespace ComponentDocs.Workspace

open Pattern (Level)

/-- The paths that some levels of a pattern lead to, seen from a directory. The names
`.` and `..` are stood for by themselves, and by wildcards that begin with a dot. -/
def search (workspace : Workspace) : List Level → Path → List Path
  | [], here => [here]
  | .literal name :: levels, here =>
    let there := here.child name
    let leads :=
      if name = "." || name = ".." then workspace.isDirectory here else workspace.contains there
    if leads then workspace.search levels there else []
  | .wild glyphs :: levels, here =>
    if workspace.isDirectory here then
      let own := (workspace.names here).filter fun name => Glyph.stand glyphs name.toList
      let dots := if glyphs.head? = some (.exactly '.') then [".", ".."] else []
      own.flatMap (fun name => workspace.search levels (here.child name)) ++
        (dots.filter fun name => Glyph.stand glyphs name.toList).flatMap
          (fun name => workspace.search levels (here.join name))
    else []
  | [.anyDepth], here => ((workspace.inside here).map Prod.snd).filter workspace.isDirectory
  | .anyDepth :: .anyDepth :: levels, here => workspace.search (.anyDepth :: levels) here
  | .anyDepth :: level :: levels, here =>
    ((workspace.inside here).filter fun entry => level.admits entry.1).flatMap
      fun entry => workspace.search levels entry.2

/-- The files that a pattern stands for. None of them is a directory, so a pattern
that asks for directories stands for no file. -/
def matching (workspace : Workspace) (pattern : Pattern) : List Path :=
  if pattern.directoriesOnly then []
  else
    (workspace.search pattern.levels ⟨if pattern.fromTop then "/" else "."⟩).filter
      workspace.isFile

end ComponentDocs.Workspace
