import SweepPlot.NameMap
import SweepPlot.Value

/-!
# The parameters of one result

A benchmark result carries named values, at most one per name.
-/

namespace SweepPlot

/-- The named values of one result. -/
structure Parameters where
  /-- The value of each name. -/
  bindings : NameMap Value
  deriving DecidableEq, Repr, Inhabited

namespace Parameters

/-- No parameters at all. -/
def empty : Parameters := ⟨∅⟩

/-- The value of a name. -/
def get? (p : Parameters) (name : String) : Option Value := p.bindings.get? name

/-- Whether a name has exactly the given value. -/
def binds (p : Parameters) (name : String) (value : Value) : Bool := p.get? name == some value

/-- The parameters with one of them set. -/
def insert (p : Parameters) (name : String) (value : Value) : Parameters :=
  ⟨p.bindings.insert name value⟩

/-- The parameters of a list, of which a later one wins over an earlier one. -/
def ofList (l : List (String × Value)) : Parameters := ⟨.ofList l⟩

/-- The parameters in name order. -/
def toList (p : Parameters) : List (String × Value) := p.bindings.toList

/-- The names in increasing order. -/
def names (p : Parameters) : List String := p.bindings.names

/-- The number of parameters. -/
def size (p : Parameters) : Nat := p.bindings.size

@[simp] theorem get?_empty (k : String) : empty.get? k = none := rfl

@[simp] theorem get?_insert (p : Parameters) (name : String) (value : Value) (k : String) :
    (p.insert name value).get? k = if k = name then some value else p.get? k :=
  NameMap.get?_insert ..

theorem ext_get? {p q : Parameters} (h : ∀ k, p.get? k = q.get? k) : p = q := by
  obtain ⟨a⟩ := p
  obtain ⟨b⟩ := q
  congr
  exact NameMap.ext_get? h

theorem binds_iff {p : Parameters} {name : String} {value : Value} :
    p.binds name value = true ↔ p.get? name = some value := by
  simp [binds]

end Parameters

end SweepPlot
