import Mathlib.Data.List.Nodup
import SweepPlot.Proofs.Selection.Positions

/-!
# Selections in order

The orders of a selection are orders of options: the values of a parameter are compared, and a
missing one comes last. As the comparison of values is transitive and oriented, so are these, and a
selection is sorted by them (`ResultSet.pairwise_select`).

Results that compare equal stay as they were found. Without such ties a selection is fixed by its
members, so that the same results found in another order are selected in the same order
(`ResultSet.select_eq_of_perm`).
-/

namespace SweepPlot

namespace Order

variable {cmp : Value → Value → Ordering}

instance [Std.OrientedCmp cmp] : Std.OrientedCmp (compareMissingLast cmp) where
  eq_swap {a b} := by
    cases a with
    | none => cases b <;> rfl
    | some x =>
      cases b with
      | none => rfl
      | some y =>
        show cmp x y = (cmp y x).swap
        exact Std.OrientedCmp.eq_swap

instance [Std.TransCmp cmp] : Std.TransCmp (compareMissingLast cmp) where
  isLE_trans {a b c} hab hbc := by
    cases c with
    | none => cases a <;> rfl
    | some z =>
      cases b with
      | none => cases hbc
      | some y =>
        cases a with
        | none => cases hab
        | some x =>
          show (cmp x z).isLE
          exact Std.TransCmp.isLE_trans hab hbc

/-- If only equal values compare equal, so do only equal options. -/
theorem eq_of_compareMissingLast (hcmp : ∀ x y, cmp x y = .eq → x = y) {a b : Option Value}
    (h : compareMissingLast cmp a b = .eq) : a = b := by
  cases a with
  | none =>
    cases b with
    | none => rfl
    | some y => cases h
  | some x =>
    cases b with
    | none => cases h
    | some y => rw [hcmp x y h]

instance : Std.TransCmp fun x y : Value => Ord.compare y x := Std.TransCmp.opposite

theorem compare_ascending (axis : String) (a b : Entry) :
    (ascending axis).compare a b =
      compareMissingLast Ord.compare (a.parameters.get? axis) (b.parameters.get? axis) := rfl

theorem compare_descending (axis : String) (a b : Entry) :
    (descending axis).compare a b =
      compareMissingLast (fun x y => Ord.compare y x) (a.parameters.get? axis)
        (b.parameters.get? axis) := rfl

instance (o : Order) : Std.TransCmp o.compare where
  eq_swap {a b} := by
    cases o with
    | discovery => rfl
    | ascending axis =>
      simp only [compare_ascending]
      exact Std.OrientedCmp.eq_swap
    | descending axis =>
      simp only [compare_descending]
      exact Std.OrientedCmp.eq_swap
  isLE_trans {a b c} hab hbc := by
    cases o with
    | discovery => rfl
    | ascending axis =>
      simp only [compare_ascending] at *
      exact Std.TransCmp.isLE_trans hab hbc
    | descending axis =>
      simp only [compare_descending] at *
      exact Std.TransCmp.isLE_trans hab hbc

/-- Of two results one is listed no later than the other. -/
theorem isLE_total (o : Order) (a b : Entry) :
    ((o.compare a b).isLE || (o.compare b a).isLE) = true := by
  have hswap : o.compare b a = (o.compare a b).swap := Std.OrientedCmp.eq_swap
  rw [hswap]
  cases o.compare a b <;> rfl

/-- Results that compare equal have the same value of the parameter, or both have none. -/
theorem get?_eq_of_compare {o : Order} {axis : String}
    (ho : o = .ascending axis ∨ o = .descending axis) {a b : Entry} (h : o.compare a b = .eq) :
    a.parameters.get? axis = b.parameters.get? axis := by
  rcases ho with rfl | rfl
  · exact eq_of_compareMissingLast (fun _ _ => Std.LawfulEqOrd.eq_of_compare) h
  · exact eq_of_compareMissingLast (fun _ _ h => (Std.LawfulEqOrd.eq_of_compare h).symm) h

end Order

namespace ResultSet

variable {r r' : ResultSet} {c : Constraints} {q : Option Predicate} {o : Order}

/-- A selection is sorted. -/
theorem pairwise_select : (r.select c q o).Pairwise fun a b => (o.compare a b).isLE = true :=
  List.pairwise_mergeSort (fun _ _ _ => Std.TransCmp.isLE_trans) (Order.isLE_total o) _

/-- Without ties the same results are selected in the same order, however they were found. -/
theorem select_eq_of_perm (h : r.entries.Perm r'.entries) {axis : String}
    (ho : o = .ascending axis ∨ o = .descending axis)
    (hties : ((r.select c q o).map (·.parameters.get? axis)).Nodup) :
    r.select c q o = r'.select c q o := by
  have hperm : (r.select c q o).Perm (r'.select c q o) :=
    (r.select_perm c q o).trans ((h.filter _).trans (r'.select_perm c q o).symm)
  refine hperm.eq_of_pairwise (fun a b ha hb hab hba => ?_) pairwise_select pairwise_select
  have htie := Order.get?_eq_of_compare ho (Std.OrientedCmp.isLE_antisymm hab hba)
  exact List.inj_on_of_nodup_map hties ha (hperm.mem_iff.2 hb) htie

end ResultSet

end SweepPlot
