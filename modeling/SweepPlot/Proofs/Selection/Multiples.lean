import SweepPlot.Proofs.Selection.Narrowing
import SweepPlot.Proofs.Value.Fitting

/-!
# Selecting multiples

A predicate may ask for the results in which one parameter is a multiple of another one, as a load
that grows with the number of workers. The product is computed in 64 bits with sign, where it may
not fit.

* `Parameters.IsMultiple` says what is asked for, with products of integers without bounds.
* `Predicate.holds_productEquals_iff` says that the predicate holds of nothing else, and
  `Predicate.holds_productEquals_of_not_fits` that it fails where the product does not fit.
* `ResultSet.select_productEquals` says what is selected.
-/

namespace SweepPlot

namespace Parameters

/-- Both parameters are integers, and the target is the factor times the multiplier. -/
def IsMultiple (p : Parameters) (target factor : String) (multiplier : Int) : Prop :=
  ∃ t f : Int64, p.get? target = some (.int t) ∧ p.get? factor = some (.int f) ∧
    t.toInt = f.toInt * multiplier

theorem bind_int?_eq_some_iff {v : Option Value} {n : Int64} :
    v.bind Value.int? = some n ↔ v = some (.int n) := by
  cases v with
  | none => simp
  | some v => cases v <;> simp [Value.int?]

instance (p : Parameters) (target factor : String) (multiplier : Int) :
    Decidable (p.IsMultiple target factor multiplier) :=
  decidable_of_iff (∃ t ∈ (p.get? target).bind Value.int?, ∃ f ∈ (p.get? factor).bind Value.int?,
    t.toInt = f.toInt * multiplier) (by simp [IsMultiple, bind_int?_eq_some_iff])

end Parameters

namespace Predicate

variable {p : Parameters} {target factor : String} {m : Int64}

/-- The predicate holds exactly of the multiples. -/
theorem holds_productEquals_iff :
    (productEquals target factor m).holds p = true ↔ p.IsMultiple target factor m.toInt := by
  have htarget := @Parameters.bind_int?_eq_some_iff (p.get? target)
  have hfactor := @Parameters.bind_int?_eq_some_iff (p.get? factor)
  rw [holds]
  split
  · rename_i t f ht hf
    rw [htarget] at ht
    rw [hfactor] at hf
    rw [beq_iff_eq, product?_eq_some_iff, Parameters.IsMultiple]
    constructor
    · intro hproduct
      exact ⟨t, f, ht, hf, hproduct⟩
    · rintro ⟨t', f', ht', hf', hproduct⟩
      obtain rfl : t = t' := Value.int.inj (Option.some.inj (ht.symm.trans ht'))
      obtain rfl : f = f' := Value.int.inj (Option.some.inj (hf.symm.trans hf'))
      exact hproduct
  · rename_i hmissing
    refine iff_of_false Bool.false_ne_true ?_
    rintro ⟨t, f, ht, hf, -⟩
    exact hmissing t f (htarget.2 ht) (hfactor.2 hf)

/-- A product that does not fit equals no target: it is not taken for the number that is left of it
in 64 bits. -/
theorem holds_productEquals_of_not_fits {f : Int64} (hf : p.get? factor = some (.int f))
    (h : f.toInt * m.toInt < Int64.minValue.toInt ∨ Int64.maxValue.toInt < f.toInt * m.toInt) :
    (productEquals target factor m).holds p = false := by
  rw [← Bool.not_eq_true, holds_productEquals_iff]
  rintro ⟨t, f', -, hf', hproduct⟩
  obtain rfl : f = f' := Value.int.inj (Option.some.inj (hf.symm.trans hf'))
  have hmin := t.minValue_le_toInt
  have hmax := t.toInt_le
  omega

end Predicate

namespace ResultSet

/-- **Multiples are selected exactly.** The selection of the results of which one parameter is a
multiple of another one is the part of the selection without this condition in which both are
integers and the product, as one of integers without bounds, is the target. So it has exactly the
results with all values asked for of which this holds. The predicate holds of no others, whatever
their parameters are, and a product that does not fit in 64 bits with sign is none that it finds. -/
theorem select_productEquals (target factor : String) (m : Int64) :
    (∀ (s : ResultSet) (c : Constraints) (o : Order),
      s.select c (some (.productEquals target factor m)) o =
        (s.select c none o).filter fun e => e.parameters.IsMultiple target factor m.toInt) ∧
    (∀ (s : ResultSet) (c : Constraints) (o : Order) (e : Entry),
      e ∈ s.select c (some (.productEquals target factor m)) o ↔ e ∈ s.entries ∧
        (∀ name value, c.get? name = some value → e.parameters.get? name = some value) ∧
        ∃ t f : Int64, e.parameters.get? target = some (.int t) ∧
          e.parameters.get? factor = some (.int f) ∧ t.toInt = f.toInt * m.toInt) ∧
    (∀ p, (Predicate.productEquals target factor m).holds p = true ↔
      p.IsMultiple target factor m.toInt) ∧
    (∀ (p : Parameters) (f : Int64), p.get? factor = some (.int f) →
      f.toInt * m.toInt < Int64.minValue.toInt ∨ Int64.maxValue.toInt < f.toInt * m.toInt →
      (Predicate.productEquals target factor m).holds p = false) := by
  refine ⟨fun s c o => ?_, fun s c o e => ?_, fun p => Predicate.holds_productEquals_iff,
    fun p f hf h => Predicate.holds_productEquals_of_not_fits hf h⟩
  · rw [select_some]
    refine List.filter_congr fun e _ => ?_
    rw [Bool.eq_iff_iff, Predicate.holds_productEquals_iff, decide_eq_true_iff]
  · rw [mem_select, Entry.matches_iff, Constraints.satisfiedBy_iff]
    simp only [Option.some.injEq, forall_eq', Predicate.holds_productEquals_iff]
    rfl

/-- Two results: four times the `w` of the first one is `2 ^ 64`, of which 64 bits leave its `r`. -/
def wrappedLoad : ResultSet where
  label := "b"
  entries := [⟨"b_r=0_w=4611686018427387904",
      .ofList [("r", .int 0), ("w", .int 4611686018427387904)]⟩,
    ⟨"b_r=8_w=2", .ofList [("r", .int 8), ("w", .int 2)]⟩]
  parsed e he := by
    rcases List.mem_cons.1 he with rfl | he
    · rfl
    · cases List.mem_singleton.1 he
      rfl

/-- The result whose product does not fit is left out and the other one is selected. Likewise the
least integer is not minus one times itself, which is what 64 bits leave of the product. -/
theorem select_productEquals_wrappedLoad :
    wrappedLoad.select .empty (some (.productEquals "r" "w" 4)) .discovery =
      [⟨"b_r=8_w=2", .ofList [("r", .int 8), ("w", .int 2)]⟩] ∧
    (Predicate.productEquals "w" "w" (-1)).holds (.ofList [("w", .int Int64.minValue)]) =
      false := by
  obtain ⟨hselect, -⟩ := select_productEquals "r" "w" 4
  obtain ⟨-, -, -, hunfit⟩ := select_productEquals "w" "w" (-1)
  refine ⟨?_, hunfit _ Int64.minValue (by decide) (.inr (by decide))⟩
  rw [hselect, select_of_pairwise (by decide)]
  decide

end ResultSet

end SweepPlot
