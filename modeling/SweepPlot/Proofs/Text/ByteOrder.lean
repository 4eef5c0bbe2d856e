import Mathlib.Tactic.SplitIfs
import SweepPlot.Text.Utf8

/-!
# The order of bytes

Texts are compared by their characters, and this is the order of their bytes
(`encode_lt_encode_iff`): of two characters the greater one has the greater byte at the first place
where they differ (`encodeChar_append_lt`), as the bytes of a character are its length and then the
digits of its code to the base 64.
-/

namespace SweepPlot.Text.Utf8

theorem encode_eq_flatMap (s : String) : encode s = s.toList.flatMap String.utf8EncodeChar := by
  rw [encode]
  conv => lhs; rw [← String.ofList_toList (s := s)]
  rw [String.toByteArray_ofList]
  simp [List.utf8Encode]

theorem ofNat_lt_ofNat_iff {a b : Nat} (ha : a < 256) (hb : b < 256) :
    UInt8.ofNat a < UInt8.ofNat b ↔ a < b := by
  rw [UInt8.lt_iff_toNat_lt, UInt8.toNat_ofNat_of_lt' ha, UInt8.toNat_ofNat_of_lt' hb]

theorem ofNat_inj {a b : Nat} (ha : a < 256) (hb : b < 256) :
    UInt8.ofNat a = UInt8.ofNat b ↔ a = b := by
  rw [← UInt8.toNat_inj, UInt8.toNat_ofNat_of_lt' ha, UInt8.toNat_ofNat_of_lt' hb]

/-- What is compared first can be cut into a digit to the base 64 and what is before it. -/
theorem lex_digit {a b : Nat} {P : Prop} (h : a < b ∨ a = b ∧ P) :
    a / 64 < b / 64 ∨ a / 64 = b / 64 ∧ (a % 64 < b % 64 ∨ a % 64 = b % 64 ∧ P) := by
  rcases h with h | ⟨rfl, h⟩
  · omega
  · exact .inr ⟨rfl, .inr ⟨rfl, h⟩⟩

/-- The bytes of characters compare as the characters, whatever comes after them. -/
theorem encodeChar_append_lt {c d : Char} (h : c < d) (x y : Bytes) :
    String.utf8EncodeChar c ++ x < String.utf8EncodeChar d ++ y := by
  have hcd : c.val.toNat < d.val.toNat := h
  have hd : d.val.toNat < 1114112 := by
    have hvalid := d.valid
    simp only [UInt32.isValidChar, Nat.isValidChar] at hvalid
    omega
  unfold String.utf8EncodeChar
  generalize c.val.toNat = m at hcd ⊢
  generalize d.val.toNat = n at hcd hd ⊢
  have hdigits := lex_digit (lex_digit (lex_digit (P := False) (.inl hcd)))
  simp only [Nat.div_div_eq_div_mul, Nat.reduceMul, and_false, or_false] at hdigits
  have hm : m / 262144 % 8 = m / 262144 := Nat.mod_eq_of_lt (by omega)
  have hn : n / 262144 % 8 = n / 262144 := Nat.mod_eq_of_lt (by omega)
  -- one case for each pair of lengths; only equal lengths come down to the digits
  simp only []
  split_ifs <;> simp (disch := omega) only [List.cons_append, List.nil_append,
    List.cons_lt_cons_iff, ofNat_lt_ofNat_iff, ofNat_inj, hm, hn] <;> omega

theorem flatMap_encodeChar_lt {as bs : List Char} (h : as < bs) :
    as.flatMap String.utf8EncodeChar < bs.flatMap String.utf8EncodeChar := by
  induction as generalizing bs with
  | nil =>
    cases bs with
    | nil => exact absurd h (List.lt_irrefl _)
    | cons b bs =>
      cases hb : (b :: bs).flatMap String.utf8EncodeChar with
      | nil => simp at hb
      | cons byte bytes => exact List.nil_lt_cons _ _
  | cons a as ih =>
    cases bs with
    | nil => exact absurd h (List.not_lt_nil _)
    | cons b bs =>
      rw [List.flatMap_cons, List.flatMap_cons]
      rcases List.cons_lt_cons_iff.1 h with hab | ⟨rfl, hrest⟩
      · exact encodeChar_append_lt hab _ _
      · exact List.append_left_lt (ih hrest)

/-- Texts compare as their bytes. -/
theorem encode_lt_encode_iff {a b : String} : encode a < encode b ↔ a < b := by
  have hlt : ∀ {a b : String}, a < b → encode a < encode b := by
    intro a b h
    rw [encode_eq_flatMap, encode_eq_flatMap]
    exact flatMap_encodeChar_lt (String.lt_iff.1 h)
  refine ⟨fun h => ?_, hlt⟩
  by_cases hab : a < b
  · exact hab
  by_cases hba : b < a
  · exact absurd (hlt hba) (List.lt_asymm h)
  · obtain rfl : a = b := String.le_antisymm (String.not_lt.1 hba) (String.not_lt.1 hab)
    exact absurd h (List.lt_irrefl _)

end SweepPlot.Text.Utf8
