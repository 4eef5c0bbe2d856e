import SweepPlot.Selection

/-!
# Integers that fit

An integer is kept in 64 bits with sign if it fits, and else there is none (`fit?`). Products and
sums are computed without bounds before that. So a result that is there is the exact one, and the
exact one is there whenever it is the value of some word (`fit?_eq_some_iff`): a product or a sum
that leaves the range is noticed and comes out as no other number.
-/

namespace SweepPlot

/-- The integer in 64 bits with sign, if it fits. -/
def fit? (n : Int) : Option Int64 :=
  if Int64.minValue.toInt ≤ n ∧ n ≤ Int64.maxValue.toInt then some (Int64.ofInt n) else none

/-- What fits is kept as it is, and what is kept fits. -/
theorem fit?_eq_some_iff {n : Int} {t : Int64} : fit? n = some t ↔ t.toInt = n := by
  rw [fit?]
  split
  · rename_i hfits
    rw [Int64.toInt_minValue, Int64.toInt_maxValue] at hfits
    have hexact : (Int64.ofInt n).toInt = n :=
      Int64.toInt_ofInt_of_le hfits.1 (Int.lt_of_le_sub_one hfits.2)
    rw [Option.some_inj, ← Int64.toInt_inj, hexact, eq_comm]
  · rename_i hfits
    constructor
    · intro h
      cases h
    · rintro rfl
      exact absurd ⟨t.minValue_le_toInt, t.toInt_le⟩ hfits

/-- What is no greater than an integer that fits, and not negative, fits as well. -/
theorem exists_toInt_eq_of_le {n : Int} {m : Int64} (hpos : 0 ≤ n) (hle : n ≤ m.toInt) :
    ∃ t : Int64, t.toInt = n := by
  have hmax := m.toInt_lt
  exact ⟨Int64.ofInt n, Int64.toInt_ofInt_of_le (by omega) (by omega)⟩

/-- The sum of two integers, if it fits in 64 bits with sign. -/
def sum? (a b : Int64) : Option Int64 := fit? (a.toInt + b.toInt)

theorem sum?_eq_some_iff {a b t : Int64} : sum? a b = some t ↔ t.toInt = a.toInt + b.toInt :=
  fit?_eq_some_iff

namespace Predicate

/-- A product is there if it fits, and then it is exact. -/
theorem product?_eq_some_iff {a b t : Int64} :
    product? a b = some t ↔ t.toInt = a.toInt * b.toInt :=
  fit?_eq_some_iff

end Predicate

end SweepPlot
