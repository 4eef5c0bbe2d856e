import SweepPlot.FileTree.Walk

/-!
# What a run changes

`FileTree.changes` lists what has to be done to the files of one tree to make them those of
another one. Locations are written as absolute paths.
-/

namespace SweepPlot

/-- The absolute path of a location. -/
def Location.path (loc : Location) : String :=
  "/" ++ "/".intercalate (loc.map FileName.display)

namespace Route

/-- The location that a route names if no link is on its way. -/
def location (r : Route) (workDir : Location) : Location :=
  r.steps.foldl
    (fun here step => match step with
      | .up => here.dropLast
      | .stay => here
      | .down name => here ++ [name])
    (if r.absolute then [] else workDir)

end Route

/-- One change of the files. -/
inductive Change
  | makeDir (path : String)
  | write (path : String) (content : Bytes)
  | removeFile (path : String)
  deriving DecidableEq, Repr

namespace FileTree

/-- The changes that lead from one tree to another, directories before what they hold. -/
def changes (before after : FileTree) : List Change :=
  (before.nodes.filterMap fun (loc, node) =>
    match node, after.lookup loc with
    | .file _, none => some (.removeFile (Location.path loc))
    | _, _ => none) ++
  after.nodes.filterMap fun (loc, node) =>
    if before.lookup loc = some node then none
    else match node with
      | .dir => some (.makeDir (Location.path loc))
      | .file content => some (.write (Location.path loc) content)
      | .link _ | .device _ => none

end FileTree

end SweepPlot
