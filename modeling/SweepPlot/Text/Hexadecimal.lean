/-!
# Hexadecimal numerals
-/

namespace SweepPlot.Text.Hexadecimal

/-- The hexadecimal digits of a number, in lower case. -/
def digits (n : Nat) : List Char := Nat.toDigits 16 n

/-- The value of a hexadecimal digit. -/
def value? (c : Char) : Option Nat :=
  if '0' ≤ c ∧ c ≤ '9' then some (c.toNat - 48)
  else if 'a' ≤ c ∧ c ≤ 'f' then some (c.toNat - 87)
  else if 'A' ≤ c ∧ c ≤ 'F' then some (c.toNat - 55)
  else none

/-- The character whose code point the hexadecimal digits give. -/
def char? (digits : List Char) : Option Char := do
  let n ← digits.foldlM (fun n c => do return n * 16 + (← value? c)) 0
  if h : n.isValidChar then some (Char.ofNatAux n h) else none

end SweepPlot.Text.Hexadecimal
