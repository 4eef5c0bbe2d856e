import SweepPlot.FileTree.System
import SweepPlot.Process.Filters

/-!
# Installed programs

`Installed.all` lists the programs that are installed, each by the name of its file: the shell and
utilities that can stand in for a plotting program, which is started without arguments and reads its
script from the input.
-/

namespace SweepPlot

/-- What an installed program is. -/
inductive Installed
  | utility (u : Utility)
  | shell

namespace Installed

open Utility in
/-- The utilities. -/
def utilities : List (String × Utility) :=
  [("cat", cat), ("echo", echo), ("false", fun _ _ => return 1), ("head", head), ("nl", nl),
   ("rev", rev), ("sleep", sleep), ("sort", sort), ("tac", tac), ("tail", tail), ("tee", tee),
   ("true", fun _ _ => return 0), ("uniq", uniq), ("wc", wc)]

/-- All installed programs. -/
def all : List (String × Installed) :=
  ("dash", .shell) :: utilities.map fun (name, u) => (name, .utility u)

/-- The nodes of the system with the installed programs. -/
def systemNodes : List (Location × Node) := FileTree.systemNodes (all.map (·.1))

/-- The program at a path, or why it cannot be run. -/
def atPath (t : FileTree) (path : List Char) : Except OsError Installed :=
  match t.openRead (Text.ByteChars.toText path) with
  | .error fault => .error (Task.osError fault)
  | .ok loc =>
    match (t.programAt? loc).bind (List.lookup · all) with
    | some p => .ok p
    | none => .error .permissionDenied

/-- The path under which a program is found in one of some directories, or else why not. A file that
cannot be reached for another reason than that it is missing counts. -/
def search (t : FileTree) (name : List Char) :
    OsError → List (List Char) → Except OsError (List Char)
  | e, [] => .error e
  | e, dir :: rest =>
    let path := if dir = [] then name else dir ++ ['/'] ++ name
    match t.openRead (Text.ByteChars.toText path) with
    | .ok loc =>
      match t.lookup loc with
      | some (.file _) => .ok path
      | _ => search t name .permissionDenied rest
    | .error (.os .notFound) | .error (.os .notADirectory) => search t name e rest
    | .error fault => search t name (Task.osError fault) rest

/-- The directories in which programs are looked up. -/
def searched : String := "/usr/local/sbin:/usr/local/bin:/usr/sbin:/usr/bin:/sbin:/bin"

/-- The program with a name. A name with a slash is a path; another one is looked up in some
directories. -/
def find (t : FileTree) (dirs : List Char) (name : List Char) : Except OsError Installed :=
  if name.contains '/' then atPath t name
  else do atPath t (← search t name .notFound (Text.pieces ':' dirs))

end Installed

end SweepPlot
