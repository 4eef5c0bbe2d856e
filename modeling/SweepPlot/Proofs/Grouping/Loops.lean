import Mathlib.Algebra.BigOperators.Ring.List
import Mathlib.Algebra.GroupWithZero.Nat
import Mathlib.Algebra.Group.Action.Defs
import SweepPlot.Proofs.Grouping.Coverage
import SweepPlot.Proofs.ResultSet.Members

/-!
# Groupings as nested loops

The groupings of a variant are made axis by axis, each time from the whole list so far. They are
what one loop inside the other lists, the loop of the first axis outermost.

* `Variant.loops` are the nested loops, and `Variant.foldl_expand` is the agreement, by induction
  on the axes.
* `Variant.length_loops` and `Variant.isSome_get?_of_mem_loops` say how many constraints the loops
  list and which names these bind.
* `Variant.groupings_eq_loops` says so of groupings.
-/

namespace SweepPlot.Variant

variable {results : ResultSet}

/-- One loop for each axis inside those before it, setting its value in turn; the innermost one
lists the constraints that are set then. -/
def loops (results : ResultSet) : List OuterAxis → Constraints → List Constraints
  | [], c => [c]
  | axis :: axes, c =>
    (axis.values results).flatMap fun value => loops results axes (c.insert axis.name value)

/-- Expanding some constraints axis by axis runs the loops for each of them. -/
theorem foldl_expand (axes : List OuterAxis) (gs : List Constraints) :
    axes.foldl (expand results) gs = gs.flatMap (loops results axes) := by
  induction axes generalizing gs with
  | nil => exact (List.flatMap_singleton' gs).symm
  | cons axis axes ih =>
    calc (axis :: axes).foldl (expand results) gs
        = (expand results gs axis).flatMap (loops results axes) := ih _
      _ = gs.flatMap fun g => ((axis.values results).map fun value =>
            g.union (.single axis.name value)).flatMap (loops results axes) := List.flatMap_assoc
      _ = gs.flatMap (loops results (axis :: axes)) := by
          simp only [List.flatMap_map, Constraints.union_single, loops]

theorem length_loops (axes : List OuterAxis) (c : Constraints) :
    (loops results axes c).length =
      (axes.map fun axis => (axis.values results).length).prod := by
  induction axes generalizing c with
  | nil => rfl
  | cons axis axes ih =>
    simp only [loops, List.length_flatMap, ih, List.map_const', List.sum_replicate, List.map_cons,
      List.prod_cons, smul_eq_mul]

/-- The loops set the names of the axes and no other. -/
theorem isSome_get?_of_mem_loops {axes : List OuterAxis} {c g : Constraints}
    (hg : g ∈ loops results axes c) (name : String) :
    (g.get? name).isSome = true ↔
      (c.get? name).isSome = true ∨ name ∈ axes.map OuterAxis.name := by
  induction axes generalizing c with
  | nil => simp [List.mem_singleton.1 hg]
  | cons axis axes ih =>
    obtain ⟨value, -, hg⟩ := List.mem_flatMap.1 hg
    rw [ih hg, Constraints.get?_insert, List.map_cons, List.mem_cons]
    split
    · rename_i heq
      simp [heq]
    · rename_i hne
      simp [hne]

/-- **Groupings are nested loops.** They are listed by one loop for each axis, the first one
outermost, that sets the value of the axis over what is set already. A discovered axis runs through
the distinct values that the results have, upwards, and a listed one through its list as it is.
There are as many groupings as combinations: one without axes, and none if an axis has no value.
A grouping binds the names of the base and of the axes, and no other. -/
theorem groupings_eq_loops (v : Variant) (results : ResultSet) :
    v.groupings results = loops results v.outerAxes v.base ∧
    (∀ name, ((OuterAxis.discovered name).values results).Pairwise (· < ·) ∧
      ∀ value, value ∈ (OuterAxis.discovered name).values results ↔
        ∃ e ∈ results.entries, e.parameters.get? name = some value) ∧
    (∀ name values, (OuterAxis.listed name values).values results = values) ∧
    (v.groupings results).length =
      (v.outerAxes.map fun axis => (axis.values results).length).prod ∧
    (v.outerAxes = [] → v.groupings results = [v.base]) ∧
    (v.groupings results = [] ↔ ∃ axis ∈ v.outerAxes, axis.values results = []) ∧
    ∀ g ∈ v.groupings results, ∀ name, (g.get? name).isSome = true ↔
      (v.base.get? name).isSome = true ∨ name ∈ v.outerAxes.map OuterAxis.name := by
  have hloops : v.groupings results = loops results v.outerAxes v.base := by
    rw [groupings, foldl_expand, List.flatMap_singleton]
  have hlength := @length_loops results v.outerAxes v.base
  rw [hloops]
  refine ⟨rfl, fun name => ⟨(results.axisValues name).sorted, fun _ =>
    ResultSet.mem_axisValues⟩, fun _ _ => rfl, hlength, fun hnone => by rw [hnone, loops], ?_,
    fun g hg => isSome_get?_of_mem_loops hg⟩
  rw [← List.length_eq_zero_iff, hlength, List.prod_eq_zero_iff, List.mem_map]
  exact exists_congr fun axis => and_congr_right fun _ => List.length_eq_zero_iff

/-- An axis with the name of an earlier one sets its value over, once for each value there was. -/
example : (twoPlots.across (.listed "n" [.int 3])).groupings repeatedResults =
    [.single "n" (.int 3), .single "n" (.int 3)] := by
  decide

/-- No plot remains if a parameter is asked for that no result has. -/
theorem groupings_twoPlots_across :
    (twoPlots.across (.discovered "w")).groupings repeatedResults = [] ∧
      (Variant.named "v").groupings repeatedResults = [.empty] := by
  obtain ⟨-, -, -, -, -, hempty, -⟩ :=
    groupings_eq_loops (twoPlots.across (.discovered "w")) repeatedResults
  obtain ⟨-, -, -, -, hnone, -⟩ := groupings_eq_loops (Variant.named "v") repeatedResults
  exact ⟨hempty.2 ⟨.discovered "w", by decide, by decide⟩, hnone rfl⟩

end SweepPlot.Variant
