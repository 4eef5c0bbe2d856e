import SweepPlot.FileTree.Access
import SweepPlot.ResultSet

/-!
# Finding the results in a directory

A `Listing` is what a directory shows: the name of every entry with the outcome of looking through
links at what it is. `Listing.results` reads the results off a listing. An entry that cannot be
looked at is an error, directories are passed over, a name that is not UTF-8 is an error, and names
that start with a dot are passed over, in this order. The names that are left are sorted.
-/

namespace SweepPlot

/-- What an entry of a directory is. -/
inductive EntryKind
  | directory
  /-- Anything else. -/
  | file
  deriving DecidableEq, Repr

/-- The entries of a directory with what each is, or the fault of looking at it. -/
abbrev Listing := List (FileName × Except IoFault EntryKind)

namespace Listing

/-- The result name that an entry stands for, if it stands for one. -/
def resultName? (entry : FileName × Except IoFault EntryKind) : Except Failure (Option String) :=
  match entry with
  | (_, .error fault) => .error (.io fault)
  | (_, .ok .directory) => .ok none
  | (.raw bytes, .ok .file) =>
    .error (.malformedSegment (FileName.raw bytes).display "non-UTF-8 filename")
  | (.text name, .ok .file) => .ok (if (FileName.text name).isHidden then none else some name)

/-- The result names of a listing, in the order of the listing. -/
def resultNames (l : Listing) : Except Failure (List String) := do
  return (← l.mapM resultName?).filterMap id

/-- The results of a listing of the directory `path`. -/
def results (path : String) (l : Listing) : Except Failure ResultSet := do
  let names ← l.resultNames
  if names = [] then .error (.emptyResultSet path)
  else ResultSet.ofFilenames (names.mergeSort fun a b => decide (a ≤ b))

end Listing

namespace FileTree

/-- What the directory at a location shows when it is listed by a path. -/
def listing (t : FileTree) (path : String) (dir : Location) : Listing :=
  (t.children dir).map fun (name, _) =>
    (name, (t.statAt path dir name).map fun node => if node = .dir then .directory else .file)

/-- The results in a directory. -/
def discover (t : FileTree) (path : String) : Except Failure ResultSet :=
  if t.isDir path then
    match t.openRead path with
    | .ok dir => (t.listing path dir).results path
    | .error fault => .error (.io fault)
  else .error (.missingDirectory path)

end FileTree

end SweepPlot
