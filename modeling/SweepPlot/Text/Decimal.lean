/-!
# Decimal numerals

* `Decimal.digits n` is the numeral of `n` without leading zeros.
* `Decimal.value cs` is the number that a digit string stands for, leading zeros or not.

Reading a written numeral gives the number back (`value_digits`), and integers are told apart by
their numerals (`ofInt_inj`).
-/

namespace SweepPlot.Text.Decimal

/-- The digit character of a number below ten. -/
def digitChar (n : Nat) : Char := Char.ofNat (48 + n)

/-- The numeral of a number, without leading zeros. -/
def digits (n : Nat) : List Char :=
  if n < 10 then [digitChar n] else digits (n / 10) ++ [digitChar (n % 10)]
termination_by n
decreasing_by omega

/-- The number a digit character stands for. -/
def digitValue (c : Char) : Nat := c.toNat - 48

/-- The number that a string of decimal digits stands for. -/
def value (cs : List Char) : Nat :=
  cs.foldl (fun n c => n * 10 + digitValue c) 0

theorem digitChar_isDigit {n : Nat} (h : n < 10) : (digitChar n).isDigit = true := by
  revert n; decide

theorem digitValue_digitChar {n : Nat} (h : n < 10) : digitValue (digitChar n) = n := by
  revert n; decide

theorem digits_ne_nil (n : Nat) : digits n ≠ [] := by
  unfold digits; split <;> simp

theorem isDigit_of_mem_digits {n : Nat} {c : Char} (h : c ∈ digits n) : c.isDigit = true := by
  induction n using digits.induct with
  | case1 n hn =>
    unfold digits at h
    rw [if_pos hn] at h
    simp at h
    exact h ▸ digitChar_isDigit hn
  | case2 n hn ih =>
    unfold digits at h
    rw [if_neg hn] at h
    rcases List.mem_append.1 h with h | h
    · exact ih h
    · simp at h
      exact h ▸ digitChar_isDigit (Nat.mod_lt _ (by decide))

theorem not_mem_digits {x : Char} (hx : x.isDigit = false) (n : Nat) : x ∉ digits n := by
  intro h
  rw [isDigit_of_mem_digits h] at hx
  cases hx

@[simp] theorem value_append_singleton (cs : List Char) (c : Char) :
    value (cs ++ [c]) = value cs * 10 + digitValue c := by
  simp [value, List.foldl_append]

/-- Reading a written numeral gives the number back. -/
theorem value_digits (n : Nat) : value (digits n) = n := by
  induction n using digits.induct with
  | case1 n hn => unfold digits; rw [if_pos hn]; simp [value, digitValue_digitChar hn]
  | case2 n hn ih =>
    unfold digits
    rw [if_neg hn, value_append_singleton, ih, digitValue_digitChar (Nat.mod_lt _ (by decide))]
    omega

/-- The numeral of an integer: a minus sign before the digits of a negative one. -/
def ofInt (n : Int) : List Char :=
  if n < 0 then '-' :: digits n.natAbs else digits n.natAbs

theorem digits_inj {m n : Nat} (h : digits m = digits n) : m = n := by
  rw [← value_digits m, h, value_digits]

/-- Numerals tell integers apart. -/
theorem ofInt_inj {m n : Int} (h : ofInt m = ofInt n) : m = n := by
  have hsign : ∀ (a : Nat) (rest : List Char), digits a ≠ '-' :: rest := fun a rest h =>
    not_mem_digits (by decide) a (h ▸ List.mem_cons_self)
  unfold ofInt at h
  split at h <;> split at h
  · have := digits_inj (List.cons.inj h).2
    omega
  · exact absurd h.symm (hsign _ _)
  · exact absurd h (hsign _ _)
  · have := digits_inj h
    omega

/-- The numeral of a natural number as a string. -/
def text (n : Nat) : String := String.ofList (digits n)

end SweepPlot.Text.Decimal
