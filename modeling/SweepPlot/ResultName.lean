import SweepPlot.Constraints
import SweepPlot.Failure

/-!
# The names of result files

A result file is named `label_name=value_name=value…`. Its first piece between underscores is the
label, and every further piece is a segment that holds exactly one equals sign. No parameter may
be given twice. `ResultName.parse` reads such a name and reports the first offending segment.
-/

namespace SweepPlot.ResultName

open Text

/-- The name and the raw value of a segment with exactly one equals sign. -/
def segment? (segment : String) : Option (String × String) :=
  match split valueDelimiter segment with
  | [name, raw] => some (name, raw)
  | _ => none

/-- The parameters with those of one more segment. -/
def addSegment (filename : String) (p : Parameters) (segment : String) :
    Except Failure Parameters :=
  match segment? segment with
  | none => .error (.malformedSegment filename segment)
  | some (name, raw) =>
    if (p.get? name).isSome then .error (.duplicateParameter filename name)
    else .ok (p.insert name (Value.parse raw))

/-- The label and the parameters of a result name. -/
def parse (filename : String) : Except Failure (String × Parameters) :=
  match split segmentDelimiter filename with
  | [] => .ok ("", .empty)
  | label :: segments => do
    let p ← segments.foldlM (addSegment filename) Parameters.empty
    return (label, p)

end SweepPlot.ResultName
