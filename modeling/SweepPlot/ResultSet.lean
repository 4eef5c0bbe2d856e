import SweepPlot.ResultName
import SweepPlot.ValueSet

/-!
# The results of one experiment

A `ResultSet` holds the result names of one experiment, in order, with their parsed parameters.
All names parse and share one label; both facts are part of the type, and `ResultSet.ofFilenames`
establishes them or reports the first name that stands against it.

The axes of a set are the parameter names that occur in it, with the values they take.
-/

namespace SweepPlot

/-- One result. -/
structure Entry where
  /-- The name of its file. -/
  filename : String
  parameters : Parameters
  deriving DecidableEq, Repr, Inhabited

/-- An entry with its label, as its file name gives them. -/
structure LabelledEntry where
  label : String
  entry : Entry
  /-- The file name reads so. -/
  parsed : ResultName.parse entry.filename = .ok (label, entry.parameters)

namespace LabelledEntry

/-- The entry that a file name stands for. -/
def ofFilename (filename : String) : Except Failure LabelledEntry :=
  match h : ResultName.parse filename with
  | .error e => .error e
  | .ok (label, parameters) => .ok ⟨label, ⟨filename, parameters⟩, h⟩

end LabelledEntry

/-- The results of one experiment. -/
structure ResultSet where
  /-- The label that all results share. -/
  label : String
  /-- The results in order. -/
  entries : List Entry
  /-- Every file name reads as the shared label and the parameters of its entry. -/
  parsed : ∀ e ∈ entries, ResultName.parse e.filename = .ok (label, e.parameters)
  deriving DecidableEq, Repr

/-- A parameter name and the values it takes. -/
structure Axis where
  name : String
  /-- Its distinct values. -/
  values : ValueSet
  deriving DecidableEq, Repr

namespace ResultSet

/-- The set without results. -/
def empty : ResultSet := ⟨"", [], by simp⟩

instance : Inhabited ResultSet := ⟨empty⟩

/-- The set of entries that share a label, or a report of the first that has another one. -/
def ofLabelled (label : String) (es : List LabelledEntry) : Except Failure ResultSet :=
  match h : es.find? fun e => e.label != label with
  | some e => .error (.inconsistentLabel e.entry.filename label e.label)
  | none => .ok ⟨label, es.map (·.entry), by
      intro x hx
      obtain ⟨e, he, rfl⟩ := List.mem_map.1 hx
      have hl : e.label = label := by simpa using List.find?_eq_none.1 h e he
      exact hl ▸ e.parsed⟩

/-- The results with the given file names, in the order given. Every name has to read as a result
name, and all labels have to equal the first one. -/
def ofFilenames (filenames : List String) : Except Failure ResultSet := do
  match ← filenames.mapM LabelledEntry.ofFilename with
  | [] => return empty
  | first :: rest => ofLabelled first.label (first :: rest)

/-- The number of results. -/
def size (s : ResultSet) : Nat := s.entries.length

/-- The file names in order. -/
def filenames (s : ResultSet) : List String := s.entries.map (·.filename)

/-- The distinct values of one parameter. -/
def axisValues (s : ResultSet) (name : String) : ValueSet :=
  .ofList (s.entries.filterMap fun e => e.parameters.get? name)

/-- The values seen so far, with one more value of a name. -/
def addValue (seen : NameMap ValueSet) (pair : String × Value) : NameMap ValueSet :=
  seen.insert pair.1 (((seen.get? pair.1).getD ∅).insert pair.2)

/-- Every parameter name with its values, in name order. -/
def axes (s : ResultSet) : List Axis :=
  (s.entries.foldl (fun seen (e : Entry) => e.parameters.toList.foldl addValue seen) ∅).toList.map
    fun (name, values) => ⟨name, values⟩

end ResultSet

end SweepPlot
