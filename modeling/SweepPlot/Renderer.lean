import SweepPlot.Failure
import SweepPlot.FileTree.Access
import SweepPlot.Process.Child
import SweepPlot.Text.Split

/-!
# Rendering plots

A renderer turns a script into a file. `PlottingProgram.render` does it with a program that reads
the script as its input and writes the plot to its output: the plot file is created, the program
runs, and if anything fails no plot file is left.
-/

namespace SweepPlot

/-- Turns a script into a file at a path, given the number of scripts rendered before. -/
abbrev Renderer := Nat → String → String → FileTree → Except Failure Unit × FileTree

/-- A program that draws plots. -/
structure PlottingProgram where
  /-- The name or path under which it is started. -/
  program : String
  deriving DecidableEq, Repr

namespace PlottingProgram

/-- The program that is used unless another one is named. -/
def standard : PlottingProgram := ⟨"gnuplot"⟩

/-- The outcome of a child that ran with a script. Its own failure counts before that of handing
over the script. -/
def verdict (program output : String) (child : Child) : Except Failure Unit :=
  match child.status with
  | .error fault => .error (.io fault)
  | .ok status =>
    if status.success then
      match child.handed with
      | .ok () => .ok ()
      | .error fault => .error (.render output (.script fault))
    else
      .error (.render output (.exited program status
        (Text.trim Text.isWhiteSpace (Text.Utf8.decodeLossy child.complaint))))

/-- Run the program with a script as input and its output in a file. -/
def run (p : PlottingProgram) (programs : Programs) (script : Bytes) (output : String)
    (t : FileTree) : Except Failure Unit × FileTree :=
  match t.openWrite true output with
  | .error fault => (.error (.io fault), t)
  | .ok (loc, t) =>
    match programs t p.program with
    | .error fault => (.error (.render output (.spawn p.program fault)), t)
    | .ok start =>
      let child := start script
      (verdict p.program output child, t.append loc child.output)

/-- Render a script with the program; a failure leaves no file at the output path. -/
def render (p : PlottingProgram) (programs : Programs) (script : Bytes) (output : String)
    (t : FileTree) : Except Failure Unit × FileTree :=
  match p.run programs script output t with
  | (.ok (), t) => (.ok (), t)
  | (.error e, t) =>
    match t.removeFile output with
    | .ok t => (.error e, t)
    | .error _ => (.error e, t)

/-- The renderer that runs the program. -/
def renderer (p : PlottingProgram) (programs : Programs) : Renderer :=
  fun _ script output t => p.render programs (Text.Utf8.encode script) output t

end PlottingProgram

end SweepPlot
