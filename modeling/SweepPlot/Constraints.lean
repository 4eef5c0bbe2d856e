import SweepPlot.Parameters
import SweepPlot.Text.Split

/-!
# Partial filters over parameters

A set of constraints asks for a value of each of its names and leaves every other name free.

* `Constraints.satisfiedBy` tests the parameters of a result.
* `Constraints.union` adds constraints; on a common name the second set wins.
* `Constraints.key` writes a set as `name=value` segments, in name order, with `_` between them;
  `Constraints.parseKey` reads such a key.
-/

namespace SweepPlot

/-- Stands between the segments of a result name and of a key. -/
def segmentDelimiter : Char := '_'

/-- Stands between the name and the value of a segment. -/
def valueDelimiter : Char := '='

/-- A set of `name = value` pairs that a result has to carry; names are unique. -/
structure Constraints where
  /-- The value asked for, for each constrained name. -/
  bindings : NameMap Value
  deriving DecidableEq, Repr, Inhabited

namespace Constraints

/-- No constraint: every result satisfies it. -/
def empty : Constraints := ⟨∅⟩

/-- The value asked for of a name. -/
def get? (c : Constraints) (name : String) : Option Value := c.bindings.get? name

/-- The constraints with one of them set. -/
def insert (c : Constraints) (name : String) (value : Value) : Constraints :=
  ⟨c.bindings.insert name value⟩

/-- The constraint on a single name. -/
def single (name : String) (value : Value) : Constraints := empty.insert name value

/-- The constraints of both sets; on a common name those of `b` win. -/
def union (a b : Constraints) : Constraints := ⟨a.bindings.union b.bindings⟩

/-- The constraints of a list, of which a later one wins over an earlier one. -/
def ofList (l : List (String × Value)) : Constraints := ⟨.ofList l⟩

/-- The filter that asks for exactly the parameters of a result. -/
def ofParameters (p : Parameters) : Constraints := ofList p.toList

/-- The pairs in name order. -/
def toList (c : Constraints) : List (String × Value) := c.bindings.toList

/-- The number of constrained names. -/
def size (c : Constraints) : Nat := c.bindings.size

/-- Every constrained name has the value asked for. -/
def satisfiedBy (c : Constraints) (p : Parameters) : Bool :=
  c.toList.all fun (name, value) => p.binds name value

/-- The text `name=value` of one pair. -/
def segment (pair : String × Value) : String :=
  pair.1 ++ valueDelimiter.toString ++ pair.2.display

/-- The canonical text of a set: its segments in name order. -/
def key (c : Constraints) : String :=
  segmentDelimiter.toString.intercalate (c.toList.map segment)

/-- The set as it is shown in messages. -/
def display (c : Constraints) : String :=
  "\x7b" ++ ", ".intercalate (c.toList.map segment) ++ "\x7d"

/-- The set that a key stands for. Each segment is cut at its first `=`; segments without one are
passed over, and of two segments with one name the later wins. -/
def parseKey (key : String) : Constraints :=
  ofList (((Text.split segmentDelimiter key).filterMap (Text.splitOnce valueDelimiter)).map
    fun (name, raw) => (name, Value.parse raw))

@[simp] theorem get?_empty (k : String) : empty.get? k = none := rfl

@[simp] theorem get?_insert (c : Constraints) (name : String) (value : Value) (k : String) :
    (c.insert name value).get? k = if k = name then some value else c.get? k :=
  NameMap.get?_insert ..

theorem ext_get? {a b : Constraints} (h : ∀ k, a.get? k = b.get? k) : a = b := by
  obtain ⟨x⟩ := a
  obtain ⟨y⟩ := b
  congr
  exact NameMap.ext_get? h

/-- Constraints are satisfied by parameters that have all values asked for. -/
theorem satisfiedBy_iff {c : Constraints} {p : Parameters} :
    c.satisfiedBy p = true ↔
      ∀ name value, c.get? name = some value → p.get? name = some value := by
  rw [satisfiedBy, List.all_eq_true]
  constructor
  · intro h name value hv
    exact Parameters.binds_iff.1 (h (name, value) (NameMap.get?_eq_some_iff.1 hv))
  · rintro h ⟨name, value⟩ hb
    exact Parameters.binds_iff.2 (h name value (NameMap.get?_eq_some_iff.2 hb))

end Constraints

end SweepPlot
