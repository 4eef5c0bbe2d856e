import SweepPlot.Extraction
import SweepPlot.Selection
import SweepPlot.Template

/-!
# Families of comparison plots

A `Variant` says which results go into which plot and how the plots look. Its outer axes make one
plot for each combination of their values: `Variant.groupings` lists the constraints of the plots,
expanding one axis after the other.
-/

namespace SweepPlot

/-- What happens to a plot that no result matches. -/
inductive EmptyPolicy
  | skip
  | emit
  deriving DecidableEq, Repr, Inhabited

/-- A parameter that is fixed within a plot and varies from plot to plot. -/
inductive OuterAxis
  /-- It takes every value found in the results. -/
  | discovered (name : String)
  /-- It takes the listed values, found or not. -/
  | listed (name : String) (values : List Value)
  deriving DecidableEq, Repr, Inhabited

namespace OuterAxis

/-- The name of the parameter. -/
def name : OuterAxis → String
  | .discovered name => name
  | .listed name _ => name

/-- The values that the parameter takes, in order. -/
def values (axis : OuterAxis) (results : ResultSet) : List Value :=
  match axis with
  | .discovered name => (results.axisValues name).toList
  | .listed _ values => values

end OuterAxis

/-- The title of a curve that shows one result. -/
inductive SeriesTitle
  | value (name : String)
  /-- Some parameters, each with its name. -/
  | pairs (names : List String)
  deriving DecidableEq, Repr, Inhabited

namespace SeriesTitle

/-- The text of a parameter, empty if it is absent. -/
def valueText (p : Parameters) (name : String) : String :=
  match p.get? name with
  | some v => v.display
  | none => ""

/-- The title for given parameters. -/
def text (title : SeriesTitle) (p : Parameters) : String :=
  match title with
  | .value name => valueText p name
  | .pairs names => ", ".intercalate (names.map fun name => name ++ "=" ++ valueText p name)

end SeriesTitle

/-- How the results of a plot become curves. -/
inductive Layout
  | perEntry (order : Order) (title : SeriesTitle)
  /-- One curve for each listed value of a parameter, with the data of all results that have it,
  in order. -/
  | perGroup (axis : String) (values : List Value) (order : Order)
  deriving DecidableEq, Repr, Inhabited

/-- A family of comparison plots. -/
structure Variant where
  /-- Its name, with which the names of its plots begin. -/
  name : String
  base : Constraints
  /-- The parameters that vary from plot to plot, the slowest first. -/
  outerAxes : List OuterAxis
  layout : Layout
  /-- A further relation between the parameters of a result. -/
  predicate : Option Predicate
  template : Template
  emptyPolicy : EmptyPolicy
  tag : String

namespace Variant

/-- A variant with the given name: no constraints, one latency curve for each result without a
title, and no empty plots. -/
def named (name : String) : Variant where
  name := name
  base := .empty
  outerAxes := []
  layout := .perEntry .discovery (.pairs [])
  predicate := none
  template := .latency
  emptyPolicy := .skip
  tag := Extraction.latencyTag

/-- The variant with a further constraint on all its plots. -/
def filter (v : Variant) (name : String) (value : Value) : Variant :=
  { v with base := v.base.insert name value }

/-- The variant with a further outer axis inside those it has. -/
def across (v : Variant) (axis : OuterAxis) : Variant :=
  { v with outerAxes := v.outerAxes ++ [axis] }

/-- The given groupings, each with every value of an axis. -/
def expand (results : ResultSet) (groupings : List Constraints) (axis : OuterAxis) :
    List Constraints :=
  groupings.flatMap fun g =>
    (axis.values results).map fun v => g.union (.single axis.name v)

/-- The constraints of the plots, one for each combination of values of the outer axes. -/
def groupings (v : Variant) (results : ResultSet) : List Constraints :=
  v.outerAxes.foldl (expand results) [v.base]

/-- Whether a grouping matches a result at all: for a layout with groups, with at least one of
their values. -/
def matchesAny (v : Variant) (results : ResultSet) (g : Constraints) : Bool :=
  match v.layout with
  | .perEntry order _ => !(results.select g v.predicate order).isEmpty
  | .perGroup axis values order =>
    values.any fun value =>
      !(results.select (g.union (.single axis value)) v.predicate order).isEmpty

end Variant

end SweepPlot
