import SweepPlot.Failure.Fault
import SweepPlot.Process.Status
import SweepPlot.Text.Literal

/-!
# Why a run fails

`Failure` lists the causes. `Failure.message` is their wording for people, and `Failure.report`
the form that shows kind and fields of the cause.
-/

namespace SweepPlot

/-- Why a plotting program gave no plot. -/
inductive RenderFault
  | spawn (program : String) (fault : IoFault)
  /-- The program ended without success; `complaint` is what it wrote to its error output. -/
  | exited (program : String) (status : ExitStatus) (complaint : String)
  /-- The script could not be handed over in full. -/
  | script (fault : IoFault)
  /-- A reason in a renderer's own words. -/
  | other (text : String)
  deriving DecidableEq, Repr, Inhabited

/-- Why an operation failed. -/
inductive Failure
  /-- The directory of the results is no directory. -/
  | missingDirectory (path : String)
  | emptyResultSet (path : String)
  /-- A segment of a result name is no `name=value` pair. -/
  | malformedSegment (filename segment : String)
  | duplicateParameter (filename name : String)
  /-- A result name has another label than the first one. -/
  | inconsistentLabel (filename expected found : String)
  | unknownVariant (name : String)
  | extraction (path tag : String) (fault : IoFault)
  | render (output : String) (fault : RenderFault)
  /-- Any other operation on files failed. -/
  | io (fault : IoFault)
  deriving DecidableEq, Repr, Inhabited

open Text

namespace IoFault

/-- The wording of a fault. -/
def message : IoFault → String
  | .os e => e.message ++ " (os error " ++ toString e.code ++ ")"
  | .notUtf8 => "stream did not contain valid UTF-8"
  | .nulInPath => "file name contained an unexpected NUL byte"
  | .nulInProgram => "nul byte found in provided data"
  | .atPath path fault => fault.message ++ " at path " ++ literal path
  | .other text => text

/-- The kind of a fault. -/
def kind : IoFault → String
  | .os e => e.kind
  | .notUtf8 => "InvalidData"
  | .nulInPath | .nulInProgram => "InvalidInput"
  | .atPath _ fault => fault.kind
  | .other _ => "Other"

/-- A fault with its kind and fields. -/
def report : IoFault → String
  | .os e => "Os \x7b code: " ++ toString e.code ++ ", kind: " ++ e.kind ++ ", message: " ++
      literal e.message ++ " \x7d"
  | .atPath path fault =>
    "Custom \x7b kind: " ++ fault.kind ++ ", error: PathError \x7b path: " ++ literal path ++
      ", err: " ++ fault.report ++ " \x7d \x7d"
  | .other text => "Custom \x7b kind: Other, error: " ++ literal text ++ " \x7d"
  | f => "Error \x7b kind: " ++ f.kind ++ ", message: " ++ literal f.message ++ " \x7d"

end IoFault

namespace RenderFault

/-- The wording of a renderer's fault. -/
def message : RenderFault → String
  | .spawn program fault => "failed to spawn " ++ program ++ ": " ++ fault.message
  | .exited program status complaint =>
    program ++ " exited with " ++ status.display ++ ": " ++ complaint
  | .script fault => "failed to write script: " ++ fault.message
  | .other text => text

end RenderFault

namespace Failure

/-- The wording of a failure. -/
def message : Failure → String
  | .missingDirectory path => "result directory not found: " ++ path
  | .emptyResultSet path => "no result files in " ++ path
  | .malformedSegment filename segment =>
    "malformed segment '" ++ segment ++ "' in '" ++ filename ++ "': expected exactly one '='"
  | .duplicateParameter filename name =>
    "parameter '" ++ name ++ "' appears more than once in '" ++ filename ++ "'"
  | .inconsistentLabel filename expected found =>
    "inconsistent result label in '" ++ filename ++ "': expected '" ++ expected ++ "', found '" ++
      found ++ "'"
  | .unknownVariant name => "unknown plot variant '" ++ name ++ "'"
  | .extraction path tag fault =>
    "extraction of " ++ tag ++ " from " ++ path ++ " failed: " ++ fault.message
  | .render output fault => "render of " ++ output ++ " failed: " ++ fault.message
  | .io fault => "io error: " ++ fault.message

/-- One field of a report. -/
def field (name value : String) : String := name ++ ": " ++ value

/-- The report of a cause with named fields. -/
def record (kind : String) (fields : List String) : String :=
  kind ++ " \x7b " ++ ", ".intercalate fields ++ " \x7d"

/-- A failure with its kind and fields. -/
def report : Failure → String
  | .missingDirectory path => "MissingDirectory(" ++ literal path ++ ")"
  | .emptyResultSet path => "EmptyResultSet(" ++ literal path ++ ")"
  | .malformedSegment filename segment =>
    record "MalformedSegment"
      [field "filename" (literal filename),
       field "segment" (literal segment)]
  | .duplicateParameter filename name =>
    record "DuplicateParameter"
      [field "filename" (literal filename), field "name" (literal name)]
  | .inconsistentLabel filename expected found =>
    record "InconsistentLabel"
      [field "filename" (literal filename),
       field "expected" (literal expected),
       field "found" (literal found)]
  | .unknownVariant name => "UnknownVariant(" ++ literal name ++ ")"
  | .extraction path tag fault =>
    record "Extraction"
      [field "path" (literal path), field "tag" (literal tag),
       field "reason" (literal fault.message)]
  | .render output fault =>
    record "Render"
      [field "output" (literal output), field "reason" (literal fault.message)]
  | .io fault => "Io(" ++ fault.report ++ ")"

end Failure

end SweepPlot
