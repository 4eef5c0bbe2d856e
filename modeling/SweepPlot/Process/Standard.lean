import SweepPlot.Shell.Evaluation

/-!
# The standard programs

`StandardPrograms.start` starts the programs that can stand in for a plotting program: those that
are installed. Results about rendering are about arbitrary `Programs`; these are the ones that the
command-line program is run with.
-/

namespace SweepPlot.StandardPrograms

/-- The program that a name leads to, or why it cannot be started. -/
def find (t : FileTree) (name : String) : Except IoFault Installed :=
  if name.toList.contains '\x00' then .error .nulInProgram
  else if name = "" then .error (.os .notFound)
  else
    match Installed.find t Installed.searched.toList (Text.ByteChars.ofString name) with
    | .ok p => .ok p
    | .error e => .error (.os e)

/-- What a program does that is started under a name with an input. -/
def child (p : Installed) (t : FileTree) (name : String) (input : Bytes) : Child :=
  let name := Text.ByteChars.ofString name
  match p with
  | .shell => Shell.ofInput t name input
  | .utility u =>
    let (code, task) := (u name []).run (Task.start t input)
    Child.ofTask task (.code code)

/-- The program with a name, or why it cannot be started. -/
def start : Programs := fun t name => (find t name).map fun p => child p t name

end SweepPlot.StandardPrograms
