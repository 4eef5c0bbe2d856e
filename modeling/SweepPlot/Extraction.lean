import SweepPlot.Extraction.Feedback
import SweepPlot.Failure
import SweepPlot.FileTree.Access

/-!
# Plot data from result files

`Extraction.extract` writes the rows of a result file into a data file. The two are opened before
anything is read, so that a data file that is emptied and read too gives no rows.
-/

namespace SweepPlot

/-- What happens to the rows that a data file holds already. -/
inductive WriteMode
  /-- They are dropped. -/
  | truncate
  /-- They stay before the new ones. -/
  | append
  deriving DecidableEq, Repr, Inhabited

namespace Extraction

/-- The tag of the rows of a latency distribution. -/
def latencyTag : String := "LATENCYFRACTION"

/-- The tag of the rows that give a throughput. -/
def throughputTag : String := "THROUGHPUT"

/-- Write the rows with a tag of `source` into `dest`; the result is their number. The source is
opened before the destination, and rows before a line that is not UTF-8 are written. -/
def extract (source tag dest : String) (mode : WriteMode) (t : FileTree) :
    Except Failure Nat × FileTree :=
  let failed (fault : IoFault) : Failure := .extraction source tag fault
  match t.openRead source with
  | .error fault => (.error (failed fault), t)
  | .ok origin =>
    match t.openWrite (mode == .truncate) dest with
    | .error fault => (.error (failed fault), t)
    | .ok (target, t) =>
      match t.readAt origin with
      | .error fault => (.error (failed fault), t)
      | .ok content =>
        if origin = target then
          let (result, added) := Feedback.extract tag content
          (result.mapError failed, t.append target added)
        else
          let (rows, complete) := scan tag (lines content)
          let (written, t) := t.addAt target (rowBytes rows)
          if complete then ((written.map fun _ => rows.length).mapError failed, t)
          else (.error (failed .notUtf8), t)

end Extraction

end SweepPlot
