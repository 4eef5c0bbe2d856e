import SweepPlot.Text.Decimal

/-!
# Floating-point numbers in decimal

A floating-point number that is written in decimal stands for the nearest number of 53 binary
digits. `Binary64.ofDecimal` finds it, and `Binary64.shortest` finds the fewest decimal digits that
stand for it.
-/

namespace SweepPlot.Text

/-- A binary floating-point number. -/
inductive Binary64
  /-- The number `mantissa * 2 ^ exponent`, with a sign. -/
  | finite (negative : Bool) (mantissa : Nat) (exponent : Int)
  /-- More than every finite number, or less. -/
  | infinite (negative : Bool)
  | nan
  deriving DecidableEq, Repr, Inhabited

namespace Binary64

/-- The quotient rounded to the nearest integer; a half goes to the even neighbour. -/
def roundDiv (num den : Nat) : Nat :=
  let q := num / den
  let r := num % den
  if den < 2 * r ∨ (2 * r = den ∧ q % 2 = 1) then q + 1 else q

/-- Numerator and denominator of `n * base ^ e`. -/
def fraction (n base : Nat) (e : Int) : Nat × Nat :=
  if 0 ≤ e then (n * base.pow e.toNat, 1) else (n, base.pow (-e).toNat)

/-- The least exponent of a number. -/
def minExponent : Int := -1074

/-- The greatest exponent of a number. -/
def maxExponent : Int := 971

/-- The least number of more than 53 binary digits. -/
def precisionBound : Nat := Nat.pow 2 53

/-- The number of 53 binary digits nearest to a positive quotient. -/
def ofFraction (negative : Bool) (num den : Nat) : Binary64 :=
  let estimate : Int := (num.log2 : Int) - (den.log2 : Int) - 53
  let scaled (e : Int) : Nat × Nat :=
    if 0 ≤ e then (num, den * Nat.pow 2 e.toNat) else (num * Nat.pow 2 (-e).toNat, den)
  let whole := (scaled estimate).1 / (scaled estimate).2
  let e := max minExponent (if whole < precisionBound then estimate else estimate + 1)
  let m := roundDiv (scaled e).1 (scaled e).2
  let (m, e) := if m = precisionBound then (precisionBound / 2, e + 1) else (m, e)
  if maxExponent < e then .infinite negative else .finite negative m e

/-- A power of two that is not above the power of ten with an exponent: `2 ^ 3 ≤ 10 ≤ 2 ^ 4`. -/
def powerBelow (e : Int) : Int := if 0 ≤ e then 3 * e else 4 * e

/-- A power of two that is not below the power of ten with an exponent. -/
def powerAbove (e : Int) : Int := if 0 ≤ e then 4 * e else 3 * e

/-- The number nearest to `n * 10 ^ e`. What is clearly too small or too large for any other number
is zero or infinite. -/
def ofDecimal (negative : Bool) (n : Nat) (e : Int) : Binary64 :=
  if n = 0 ∨ (n.log2 : Int) + 1 + powerAbove e < minExponent - 1 then .finite negative 0 minExponent
  else if maxExponent + 53 < (n.log2 : Int) + powerBelow e then .infinite negative
  else
    let (num, den) := fraction n 10 e
    ofFraction negative num den

/-- The least `k` up to a limit for which the quotient times `10 ^ k` is at least one. -/
def leadingZeros (num den : Nat) : Nat → Nat → Nat
  | 0, k => k
  | limit + 1, k => if den ≤ num * Nat.pow 10 k then k else leadingZeros num den limit (k + 1)

/-- The least `p` for which a positive quotient is below `10 ^ p`. -/
def decimalPoint (num den : Nat) : Int :=
  if den ≤ num then (Decimal.digits (num / den)).length
  else 1 - (leadingZeros num den 400 1 : Int)

/-- A decimal of the given number of digits that reads back as the number: of the two next to it,
the nearer one that does. -/
def candidate? (m : Nat) (e : Int) (count : Nat) : Option (Nat × Int) :=
  let (num, den) := fraction m 2 e
  let place := decimalPoint num den - count
  let (num, den) := if 0 ≤ place then (num, den * Nat.pow 10 place.toNat)
    else (num * Nat.pow 10 (-place).toNat, den)
  let below := num / den
  let readsBack (d : Nat) : Bool := ofDecimal false d place == .finite false m e
  let near := roundDiv num den
  let far := if near = below then below + 1 else below
  if readsBack near then some (near, place)
  else if readsBack far then some (far, place)
  else none

/-- The decimal `d * 10 ^ place` without zeros at the end of `d`. -/
def dropZeros (d : Nat) (place : Int) : Nat × Int :=
  if d ≠ 0 ∧ d % 10 = 0 then dropZeros (d / 10) (place + 1) else (d, place)
termination_by d

/-- The fewest digits that read back as the number, with the power of ten of the last one. A
candidate that was rounded up to a power of ten has a zero to drop. -/
def shortest (m : Nat) (e : Int) : Nat × Int :=
  let (d, place) := ((List.range 17).findSome? fun i => candidate? m e (i + 1)).getD (m, 0)
  dropZeros d place

/-- Digits with a decimal point: at least one digit stands on each side of it. -/
def positional (digits : List Char) (place : Int) : List Char :=
  if 0 ≤ place then digits ++ List.replicate place.toNat '0' ++ ['.', '0']
  else
    let fractional := (-place).toNat
    let padded := List.replicate (fractional + 1 - digits.length) '0' ++ digits
    padded.take (padded.length - fractional) ++ ['.'] ++ padded.drop (padded.length - fractional)

/-- The text of a number. -/
def text : Binary64 → String
  | .nan => "NaN"
  | .infinite negative => if negative then "-inf" else "inf"
  | .finite negative m e =>
    let digits := if m = 0 then ['0', '.', '0']
      else
        let (d, place) := shortest m e
        positional (Decimal.digits d) place
    String.ofList (if negative then '-' :: digits else digits)

end Binary64

end SweepPlot.Text
