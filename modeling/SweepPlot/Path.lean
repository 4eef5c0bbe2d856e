import SweepPlot.Text.Split

/-!
# Paths

A path is a text. Joining paths normalises nothing: an absolute right side replaces the left one,
and else a `/` stands between the two sides unless the left one is empty or ends in it.
-/

namespace SweepPlot.Path

/-- Whether a path starts at the root. -/
def isAbsolute (path : String) : Bool := path.toList.head? == some '/'

/-- The path of `b` below `a`. -/
def join (a b : String) : String :=
  if isAbsolute b then b
  else if a.toList = [] ∨ a.toList.getLast? = some '/' then a ++ b
  else a ++ "/" ++ b

/-- The names of a path, without empty ones and without `.` except at the start of a relative
path. -/
def components (path : String) : List String :=
  match Text.split '/' path with
  | [] => []
  | first :: rest =>
    (if first = "" then [] else [first]) ++ rest.filter fun s => s ≠ "" && s ≠ "."

/-- The path and, after it, the paths of the directories that lead to it, nearest first. -/
def ancestors (path : String) : List String :=
  let names := components path
  let root := if isAbsolute path then "/" else ""
  path :: (List.range names.length).map fun i =>
    root ++ "/".intercalate (names.take (names.length - 1 - i))

end SweepPlot.Path
