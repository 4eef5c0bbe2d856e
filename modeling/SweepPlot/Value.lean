import SweepPlot.Text.Decimal
import SweepPlot.Text.Literal

/-!
# Parameter values

A parameter of a benchmark result is an integer or a text. `Value.parse` types a raw text:
decimal digits that fit in 64 bits with sign are an integer, and all else is text. `Value.text`
writes a value back.

Values are ordered with integers first, by size, and then texts, by their characters.
-/

namespace SweepPlot

/-- The value of one parameter. -/
inductive Value
  | int (n : Int64)
  /-- Any other text, kept as it is. -/
  | text (s : String)
  deriving DecidableEq, Repr, Inhabited

namespace Value

open Text

/-- The greatest number that a digit string may stand for and still be an integer value. -/
def maxInt : Nat := 9223372036854775807

/-- A text that reads as an integer value: at least one character, digits only, and not too
large. Leading zeros are allowed. -/
def IsNumeral (cs : List Char) : Prop :=
  cs ≠ [] ∧ cs.all Char.isDigit = true ∧ Decimal.value cs ≤ maxInt

instance (cs : List Char) : Decidable (IsNumeral cs) := by
  unfold IsNumeral; infer_instance

/-- The value that a raw text stands for. -/
def parse (raw : String) : Value :=
  if IsNumeral raw.toList then .int (Int64.ofNat (Decimal.value raw.toList)) else .text raw

/-- The text of a value. -/
def display : Value → String
  | .int n => String.ofList (Decimal.ofInt n.toInt)
  | .text s => s

/-- The value with its type, as diagnostics show it. -/
def report : Value → String
  | .int n => "Int(" ++ (Value.int n).display ++ ")"
  | .text s => "Text(" ++ literal s ++ ")"

/-- The integer, if the value is one. -/
def int? : Value → Option Int64
  | .int n => some n
  | .text _ => none

/-- The text, if the value is one. -/
def text? : Value → Option String
  | .int _ => none
  | .text s => some s

/-- Integers come before texts; integers are compared by size, texts by their characters. -/
protected def compare : Value → Value → Ordering
  | .int a, .int b => compare a b
  | .int _, .text _ => .lt
  | .text _, .int _ => .gt
  | .text a, .text b => compare a b

instance : Ord Value := ⟨Value.compare⟩
instance : LT Value := ltOfOrd
instance : LE Value := leOfOrd

@[simp] theorem compare_int_int (a b : Int64) :
    compare (Value.int a) (Value.int b) = compare a b := rfl
@[simp] theorem compare_int_text (a : Int64) (b : String) :
    compare (Value.int a) (Value.text b) = .lt := rfl
@[simp] theorem compare_text_int (a : String) (b : Int64) :
    compare (Value.text a) (Value.int b) = .gt := rfl
@[simp] theorem compare_text_text (a b : String) :
    compare (Value.text a) (Value.text b) = compare a b := rfl

instance : Std.OrientedOrd Value where
  eq_swap {a b} := by
    cases a <;> cases b <;> simp
    · exact Std.OrientedCmp.eq_swap
    · exact Std.OrientedCmp.eq_swap

instance : Std.TransOrd Value where
  isLE_trans {a b c} := by
    cases a <;> cases b <;> cases c <;> simp
    · exact Std.TransCmp.isLE_trans
    · exact Std.TransCmp.isLE_trans

instance : Std.LawfulEqOrd Value where
  eq_of_compare {a b} := by
    cases a <;> cases b <;> simp

theorem lt_iff_compare {a b : Value} : a < b ↔ compare a b = .lt := Iff.rfl

theorem lt_trans {a b c : Value} (h₁ : a < b) (h₂ : b < c) : a < c :=
  Std.TransCmp.lt_trans h₁ h₂

theorem lt_irrefl (a : Value) : ¬ a < a := by
  simp [lt_iff_compare]

theorem lt_trichotomy (a b : Value) : a < b ∨ a = b ∨ b < a := by
  rcases h : compare a b
  · exact .inl h
  · exact .inr (.inl (Std.LawfulEqOrd.eq_of_compare h))
  · exact .inr (.inr (Std.OrientedCmp.lt_of_gt h))

end Value

end SweepPlot
