import SweepPlot.FileTree.Basic
import SweepPlot.Path

/-!
# From paths to locations

A path is a route of steps: down to a name, up to the parent directory, or to the directory itself.
`FileTree.walk` follows a route through links to the place it leads to, of which only the last name
may be missing; `FileTree.walkWith` is the part of it between two links.
-/

namespace SweepPlot

/-- One step of a route. -/
inductive Route.Step
  | up
  /-- To the directory itself, which has to be one. -/
  | stay
  /-- To a name in the directory. -/
  | down (name : FileName)
  deriving DecidableEq, Repr

/-- The way that a path describes. -/
structure Route where
  absolute : Bool
  steps : List Route.Step
  /-- It ends in `/` and so has to lead to a directory. -/
  dirOnly : Bool
  deriving DecidableEq, Repr

namespace Route

/-- The step for one piece of a path; an empty piece is none. -/
def step? (piece : String) : Option Route.Step :=
  if piece = "" then none
  else if piece = "." then some .stay
  else if piece = ".." then some .up
  else some (.down (.text piece))

/-- The route of a path. -/
def ofPath (path : String) : Route :=
  let pieces := Text.split '/' path
  { absolute := Path.isAbsolute path
    steps := pieces.filterMap step?
    dirOnly := pieces.getLast? == some "" }

end Route

/-- What a route is followed for. -/
inductive Aim
  /-- The last name itself, link or not. -/
  | name
  /-- What the last name leads to, links followed. -/
  | target
  /-- A file to write, links followed. The name of a file that may have to be created is not
  followed by a slash. -/
  | writing
  deriving DecidableEq, Repr

/-- The place that a route leads to. -/
structure Spot where
  location : Location
  /-- What stands there; nothing if the last name is missing. -/
  node : Option Node
  /-- The route asks for a directory. -/
  dirOnly : Bool
  deriving DecidableEq, Repr

namespace FileTree

/-- The greatest length of a name in bytes. -/
def maxNameLength : Nat := 255

/-- The greatest length of a path in bytes. -/
def maxPathLength : Nat := 4095

/-- The number of links that one route may follow. -/
def maxLinks : Nat := 40

/-- Follow the steps from the directory `here`. Of a link at the end the aim decides; with the
target of any other link, the directory that it is in, the steps after it and whether they ask for a
directory, `follow` goes on. -/
def walkWith (t : FileTree) (aim : Aim)
    (follow : String → Location → List Route.Step → Bool → Except IoFault Spot) :
    Location → List Route.Step → Bool → Except IoFault Spot
  | here, [], _ => .ok ⟨here, some .dir, true⟩
  | here, .up :: rest, dirOnly => walkWith t aim follow here.dropLast rest dirOnly
  | here, .stay :: rest, dirOnly => walkWith t aim follow here rest dirOnly
  | here, .down name :: rest, dirOnly =>
    if aim = .writing ∧ rest = [] ∧ dirOnly = true then .error (.os .isADirectory)
    else if maxNameLength < name.byteLength then .error (.os .nameTooLong)
    else
      match t.lookup (here ++ [name]) with
      | none => if rest = [] then .ok ⟨here ++ [name], none, dirOnly⟩ else .error (.os .notFound)
      | some .dir => walkWith t aim follow (here ++ [name]) rest dirOnly
      | some (.file content) =>
        if rest = [] then .ok ⟨here ++ [name], some (.file content), dirOnly⟩
        else .error (.os .notADirectory)
      | some (.device d) =>
        if rest = [] then .ok ⟨here ++ [name], some (.device d), dirOnly⟩
        else .error (.os .notADirectory)
      | some (.link target) =>
        if rest = [] ∧ aim = .name then .ok ⟨here ++ [name], some (.link target), dirOnly⟩
        else follow target here rest dirOnly

/-- Follow the steps from the directory `here`, along `links` links at most. -/
def walk (t : FileTree) (aim : Aim) :
    Nat → Location → List Route.Step → Bool → Except IoFault Spot
  | 0 => walkWith t aim fun _ _ _ _ => .error (.os .tooManyLinks)
  | links + 1 => walkWith t aim fun target here rest dirOnly =>
    if target = "" then .error (.os .notFound)
    else
      let route := Route.ofPath target
      walk t aim links (if route.absolute then [] else here) (route.steps ++ rest)
        (if rest = [] then dirOnly || route.dirOnly else dirOnly)

/-- The place of a path. -/
def locate (t : FileTree) (aim : Aim) (path : String) : Except IoFault Spot :=
  if path.toList.contains '\x00' then .error .nulInPath
  else if maxPathLength < path.utf8ByteSize then .error (.os .nameTooLong)
  else if path = "" then .error (.os .notFound)
  else
    let route := Route.ofPath path
    t.walk aim maxLinks (if route.absolute then [] else t.workDir) route.steps route.dirOnly

end FileTree

end SweepPlot
