import SweepPlot.Disk
import SweepPlot.Process.Standard
import SweepPlot.Program
import Std.Time.Format

/-!
# The command-line program

`main` reads the files that a command line names, does what `Program.run` says, writes the files
that changed, and prints.
-/

namespace SweepPlot.Program

/-- A stamp of six letters and digits, chosen at random. -/
def randomStamp : IO String := do
  let signs := "0123456789ABCDEFGHIJKLMNOPQRSTUVWXYZabcdefghijklmnopqrstuvwxyz".toList
  let picked ← (List.range 6).mapM fun _ => do
    return signs.getD (← IO.rand 0 (signs.length - 1)) '0'
  return String.ofList picked

/-- The present time in UTC. -/
def presentTime : IO String := do
  let time := (← Std.Time.Timestamp.now).toWallTime .zero
  return (Std.Time.PlainDateTime.ofWallTime time).format "uuuu-MM-dd'T'HH:mm:ss.SSSSSS'Z'"

/-- What the program finds around it. -/
def environment : IO Environment := do
  let dir := (← IO.getEnv "TMPDIR").getD "/tmp"
  let stamps ← (List.range 16).mapM fun _ => randomStamp
  return {
    programs := StandardPrograms.start
    scratch := ⟨dir, stamps⟩
    filter := ← IO.getEnv "RUST_LOG"
    now := ← presentTime }

/-- The files of the system and those that a command line names, in the directories they stand
in. -/
def files (env : Environment) (args : List String) : IO FileTree := do
  let workDir := (Route.ofPath (← IO.currentDir).toString).location []
  let mut tree ← Disk.addLocation ⟨Installed.systemNodes, workDir⟩ workDir
  tree ← Disk.addPath tree env.scratch.dir
  match CommandLine.parse args with
  | some (.invoke i) =>
    for path in i.config.toList do tree ← Disk.addPath tree path
    for path in workPaths i tree do tree ← Disk.addDirectory tree path
    return tree
  | _ => return tree

end SweepPlot.Program

/-- Do what the arguments ask for. -/
def main (args : List String) : IO UInt32 := do
  let env ← SweepPlot.Program.environment
  let before ← SweepPlot.Program.files env args
  let outcome := SweepPlot.Program.run env args before
  (before.changes outcome.tree).forM SweepPlot.Disk.carryOut
  outcome.output.forM (IO.println ·)
  outcome.diagnostics.forM (IO.eprintln ·)
  return outcome.status.toUInt32
