import SweepPlot.FileTree.Change

/-!
# Files on disk

What stands on the disk is read into a tree, and the changes of a tree are carried out.
-/

namespace SweepPlot.Disk

/-- What stands at a path, links followed; of a directory not what it holds. -/
def node? (path : String) : IO (Option Node) := do
  try
    let real ← IO.FS.realPath path
    if ← real.isDir then return some .dir
    else return some (.file (← IO.FS.readBinFile real).toList)
  catch _ => return none

/-- The names in a directory. -/
def names (path : String) : IO (List String) := do
  try
    let real ← IO.FS.realPath path
    return (← real.readDir).toList.map (·.fileName)
  catch _ => return []

/-- The tree with what stands at a location and on the way there. -/
def addLocation (t : FileTree) (loc : Location) : IO FileTree := do
  let mut tree := t
  for n in List.range loc.length do
    let here := loc.take (n + 1)
    match ← node? (Location.path here) with
    | some node => tree := tree.set here node
    | none => pure ()
  return tree

/-- The tree with what stands at a path and on the way there. -/
def addPath (t : FileTree) (path : String) : IO FileTree :=
  addLocation t ((Route.ofPath path).location t.workDir)

/-- The tree with the directory at a path and what it holds. A name that leads nowhere is kept as
a link without a target. -/
def addDirectory (t : FileTree) (path : String) : IO FileTree := do
  let loc := (Route.ofPath path).location t.workDir
  let mut tree ← addLocation t loc
  for name in ← names (Location.path loc) do
    let entry := loc ++ [.text name]
    tree := tree.set entry ((← node? (Location.path entry)).getD (.link ""))
  return tree

/-- Carry out a change. -/
def carryOut : Change → IO Unit
  | .makeDir path => IO.FS.createDirAll path
  | .write path content => IO.FS.writeBinFile path ⟨content.toArray⟩
  | .removeFile path => IO.FS.removeFile path

end SweepPlot.Disk
