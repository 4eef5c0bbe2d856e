import SweepPlot.Failure.Fault
import SweepPlot.FileTree.Basic
import SweepPlot.Process.Status

/-!
# Child processes

A plotting program is seen through what it writes and through what the system reports of it.
Whether its input could be handed over is a report of its own: how much a pipe holds, and when a
child stops reading, is not known here, so a child may end with success although a part of its
input was refused, and without success although all of it was taken.
-/

namespace SweepPlot

/-- What a child process did with an input. -/
structure Child where
  /-- Whether all of the input was handed over, or the fault with which that ended. -/
  handed : Except IoFault Unit
  /-- What it wrote to its output. -/
  output : Bytes
  /-- What it wrote to its error output. -/
  complaint : Bytes
  /-- How it ended, or why waiting for its end failed. -/
  status : Except IoFault ExitStatus
  deriving Repr, Inhabited

/-- What each program does when it is started with an input, or why it cannot be started. -/
abbrev Programs := FileTree → String → Except IoFault (Bytes → Child)

end SweepPlot
