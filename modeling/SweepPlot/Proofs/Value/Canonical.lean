import SweepPlot.Value

/-!
# Written values

A written value shows no type. Different values are written alike if one is an integer and the other
one its text, and not otherwise (`Value.display_eq_iff`).

Only some values are what their texts stand for: the integers without a sign and the texts that
read as no integer. Reading gives these values back (`Value.parse_display`), and it gives no others
(`Value.isCanonical_parse`).
-/

namespace SweepPlot.Value

open Text

/-- The value is what its text stands for. -/
def IsCanonical : Value → Prop
  | .int n => 0 ≤ n.toInt
  | .text s => ¬ IsNumeral s.toList

theorem isNumeral_digits {n : Nat} (h : n ≤ maxInt) : IsNumeral (Decimal.digits n) := by
  refine ⟨Decimal.digits_ne_nil n, ?_, by rwa [Decimal.value_digits]⟩
  exact List.all_eq_true.2 fun c hc => Decimal.isDigit_of_mem_digits hc

/-- The value of a numeral has no sign, as it is not greater than the greatest integer. -/
theorem isCanonical_parse (raw : String) : (parse raw).IsCanonical := by
  unfold parse
  split
  · rename_i h
    have hlt : Decimal.value raw.toList < 2 ^ 63 := Nat.lt_succ_of_le h.2.2
    rw [IsCanonical, Int64.toInt_ofNat_of_lt hlt]
    exact Int.natCast_nonneg _
  · rename_i h
    exact h

theorem display_int {n : Int64} (h : 0 ≤ n.toInt) :
    (Value.int n).display = String.ofList (Decimal.digits n.toInt.natAbs) := by
  rw [display, Decimal.ofInt, if_neg (Int.not_lt.2 h)]

theorem parse_display {v : Value} (h : v.IsCanonical) : parse v.display = v := by
  cases v with
  | text s => exact if_neg h
  | int n =>
    have hpos : 0 ≤ n.toInt := h
    have hmax : n.toInt.natAbs ≤ maxInt := by
      have := n.toInt_lt
      simp only [maxInt]
      omega
    rw [parse, display_int hpos, String.toList_ofList, if_pos (isNumeral_digits hmax),
      Decimal.value_digits, ← Int64.ofInt_eq_ofNat, Int.natAbs_of_nonneg hpos, Int64.ofInt_toInt]

/-! ## Values that are written alike -/

theorem display_int_inj {m n : Int64} (h : (Value.int m).display = (Value.int n).display) :
    m = n :=
  Int64.toInt_inj.1 (Decimal.ofInt_inj (String.ofList_injective h))

/-- Values are written alike if they are equal, or one is an integer and the other one its text. -/
theorem display_eq_iff {a b : Value} : a.display = b.display ↔
    a = b ∨ ∃ n : Int64, (a = .int n ∧ b = .text (Value.int n).display) ∨
      (a = .text (Value.int n).display ∧ b = .int n) := by
  constructor
  · intro h
    cases a <;> cases b
    · exact .inl (congrArg _ (display_int_inj h))
    · exact .inr ⟨_, .inl ⟨rfl, congrArg _ h.symm⟩⟩
    · exact .inr ⟨_, .inr ⟨congrArg _ h, rfl⟩⟩
    · exact .inl (congrArg _ h)
  · rintro (rfl | ⟨n, ⟨rfl, rfl⟩ | ⟨rfl, rfl⟩⟩) <;> rfl

end SweepPlot.Value
