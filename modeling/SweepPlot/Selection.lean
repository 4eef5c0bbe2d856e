import SweepPlot.ResultSet

/-!
# Selecting results

* `Order` says how selected results are listed: as found, or by one parameter upwards or
  downwards. Results without the parameter come last in both directions.
* `Predicate` states a relation between parameters that constraints cannot express.
* `ResultSet.select` keeps the results that meet constraints and predicate and lists them in
  order; results that compare equal stay in the order in which they were found.
-/

namespace SweepPlot

/-- How selected results are listed. -/
inductive Order
  /-- As they were found. -/
  | discovery
  /-- By the value of a parameter, upwards. -/
  | ascending (axis : String)
  /-- By the value of a parameter, downwards. -/
  | descending (axis : String)
  deriving DecidableEq, Repr, Inhabited

namespace Order

/-- Values compare as `values` says, and a missing value comes after every value. -/
def compareMissingLast (values : Value → Value → Ordering) :
    Option Value → Option Value → Ordering
  | some x, some y => values x y
  | some _, none => .lt
  | none, some _ => .gt
  | none, none => .eq

/-- How two results compare. -/
def compare (o : Order) (a b : Entry) : Ordering :=
  match o with
  | .discovery => .eq
  | .ascending axis =>
    compareMissingLast Ord.compare (a.parameters.get? axis) (b.parameters.get? axis)
  | .descending axis =>
    compareMissingLast (fun x y => Ord.compare y x) (a.parameters.get? axis)
      (b.parameters.get? axis)

/-- The entries listed in order; those that compare equal keep their places to each other. -/
def sort (o : Order) (entries : List Entry) : List Entry :=
  entries.mergeSort fun a b => (o.compare a b).isLE

end Order

/-- A relation between the parameters of a result. -/
inductive Predicate
  /-- The integer `target` is `multiplier` times the integer `factor`. -/
  | productEquals (target factor : String) (multiplier : Int64)
  /-- The parameter is present and has one of the values. -/
  | oneOf (name : String) (values : List Value)
  /-- Any other relation. -/
  | custom (holds : Parameters → Bool)

namespace Predicate

/-- The product of two integers, if it fits in 64 bits with sign. -/
def product? (a b : Int64) : Option Int64 :=
  let p := a.toInt * b.toInt
  if Int64.minValue.toInt ≤ p ∧ p ≤ Int64.maxValue.toInt then some (Int64.ofInt p) else none

/-- Whether a predicate holds of the parameters of a result. A product that does not fit equals
nothing. -/
def holds (q : Predicate) (p : Parameters) : Bool :=
  match q with
  | .productEquals target factor multiplier =>
    match (p.get? target).bind Value.int?, (p.get? factor).bind Value.int? with
    | some t, some f => product? f multiplier == some t
    | _, _ => false
  | .oneOf name values =>
    match p.get? name with
    | some v => values.contains v
    | none => false
  | .custom holds => holds p

end Predicate

/-- Whether a result meets constraints and, if there is one, a predicate. -/
def Entry.matches (e : Entry) (c : Constraints) (q : Option Predicate) : Bool :=
  c.satisfiedBy e.parameters &&
    match q with
    | some q => q.holds e.parameters
    | none => true

theorem Entry.matches_iff {e : Entry} {c : Constraints} {q : Option Predicate} :
    e.matches c q = true ↔
      c.satisfiedBy e.parameters = true ∧ ∀ q', q = some q' → q'.holds e.parameters = true := by
  cases q <;> simp [Entry.matches]

/-- The results that meet constraints and predicate, in order. -/
def ResultSet.select (s : ResultSet) (c : Constraints) (q : Option Predicate) (o : Order) :
    List Entry :=
  o.sort (s.entries.filter (·.matches c q))

end SweepPlot
