import Mathlib.Data.Nat.Digits.Defs
import Mathlib.Data.Set.Function
import SweepPlot.Proofs.Value.Canonical
import SweepPlot.Proofs.Value.Fitting

/-!
# Which texts are integers

A text is an integer value if it is a numeral of a number that fits in 64 bits with sign.

* `Decimal.Denotes` says which number a numeral stands for, by the place value of its digits. There
  is none for a sign, for a digit of another script, or for no characters at all.
* `Decimal.read?` reads a numeral from the left and never leaves 64 bits: it stops at the first
  digit with which the number no longer fits. A further digit makes no number smaller
  (`le_foldl_digitValue`), so that this happens only if the whole number does not fit
  (`foldlM_push?_eq_some_iff`), however many zeros it starts with.
* `Value.parse_eq_int_iff` and `Value.parse_eq_text_iff` say what a text is read as, and
  `Value.parse_eq_parse_iff` which texts are read as the same value.
-/

namespace SweepPlot

namespace Text.Decimal

/-! ## Numerals -/

/-- The text is a numeral of the number: at least one character, all of them digits from `0` to
`9`, and each digit counts ten times as much as the one after it. -/
structure Denotes (s : String) (n : Nat) : Prop where
  nonempty : s ≠ ""
  digits : ∀ c ∈ s.toList, '0' ≤ c ∧ c ≤ '9'
  value : n = Nat.ofDigits 10 (s.toList.map digitValue).reverse

/-- Reading from the left gives the sum of the digits by their places. -/
theorem value_eq_ofDigits (cs : List Char) :
    value cs = Nat.ofDigits 10 (cs.map digitValue).reverse := by
  rw [Nat.ofDigits_eq_foldr, List.foldr_reverse, List.foldl_map, value]
  simp only [Nat.cast_id, Nat.add_comm, Nat.mul_comm]

theorem denotes_iff {s : String} {n : Nat} :
    Denotes s n ↔ s.toList ≠ [] ∧ s.toList.all Char.isDigit = true ∧ n = value s.toList := by
  have hdigit : ∀ c : Char, c.isDigit = true ↔ '0' ≤ c ∧ c ≤ '9' := fun c => by
    simp [Char.isDigit, Char.le_def]
  rw [value_eq_ofDigits, List.all_eq_true, ne_eq, String.toList_eq_nil_iff]
  simp only [hdigit]
  exact ⟨fun h => ⟨h.nonempty, h.digits, h.value⟩, fun ⟨hne, hdigits, hvalue⟩ =>
    ⟨hne, hdigits, hvalue⟩⟩

/-! ## Reading in 64 bits -/

/-- The number with one more digit at its end, in 64 bits: first ten times the number and then the
sum. There is none if the character is no digit or if one of the two does not fit. -/
def push? (n : Int64) (c : Char) : Option Int64 :=
  if c.isDigit = true then
    (Predicate.product? n 10).bind fun tenfold => sum? tenfold (Int64.ofNat (digitValue c))
  else none

/-- The number of a numeral, read from the left in 64 bits. -/
def read? (s : String) : Option Int64 :=
  if s = "" then none else s.toList.foldlM push? 0

theorem digitValue_lt {c : Char} (h : c.isDigit = true) : digitValue c < 10 := by
  have := (Char.isDigit_iff_toNat.1 h).2
  rw [digitValue]
  change c.toNat ≤ 57 at this
  omega

/-- A digit is added if the number fits with it. -/
theorem push?_eq_some_iff {n m : Int64} {c : Char} (hn : 0 ≤ n.toInt) :
    push? n c = some m ↔ c.isDigit = true ∧ m.toInt = n.toInt * 10 + digitValue c := by
  rw [push?]
  split
  · rename_i hc
    have hten : (10 : Int64).toInt = 10 := rfl
    have hdigit : (Int64.ofNat (digitValue c)).toInt = digitValue c :=
      Int64.toInt_ofNat_of_lt ((digitValue_lt hc).trans (by decide))
    simp only [Option.bind_eq_some_iff, Predicate.product?_eq_some_iff, sum?_eq_some_iff, hten,
      hdigit, hc, true_and]
    constructor
    · rintro ⟨tenfold, htenfold, hm⟩
      rw [hm, htenfold]
    · intro hm
      -- ten times the number is no greater than the sum, which fits
      obtain ⟨tenfold, htenfold⟩ : ∃ t : Int64, t.toInt = n.toInt * 10 :=
        exists_toInt_eq_of_le (m := m) (by omega) (by omega)
      exact ⟨tenfold, htenfold, by rw [hm, htenfold]⟩
  · rename_i hc
    simp [hc]

/-- Further digits make no number smaller. -/
theorem le_foldl_digitValue (k : Nat) (cs : List Char) :
    k ≤ cs.foldl (fun n c => n * 10 + digitValue c) k := by
  induction cs generalizing k with
  | nil => exact Nat.le_refl k
  | cons c cs ih =>
    calc k ≤ k * 10 + digitValue c := by omega
      _ ≤ _ := ih _

/-- Digits are added to a number if it fits with all of them. -/
theorem foldlM_push?_eq_some_iff {cs : List Char} {n m : Int64} {k : Nat} (hn : n.toInt = k) :
    cs.foldlM push? n = some m ↔ cs.all Char.isDigit = true ∧
      m.toInt = (cs.foldl (fun n c => n * 10 + digitValue c) k : Nat) := by
  induction cs generalizing n k with
  | nil =>
    rw [List.foldlM_nil, List.foldl_nil, ← hn, Int64.toInt_inj, eq_comm (a := m)]
    simp
  | cons c cs ih =>
    have hpush : ∀ next : Int64, push? n c = some next ↔
        c.isDigit = true ∧ next.toInt = (k * 10 + digitValue c : Nat) := fun next => by
      rw [push?_eq_some_iff (by omega), hn]
      norm_cast
    rw [List.foldlM_cons, Option.bind_eq_bind, Option.bind_eq_some_iff, List.all_cons,
      Bool.and_eq_true, List.foldl_cons]
    constructor
    · rintro ⟨next, hnext, hrest⟩
      obtain ⟨hc, hvalue⟩ := (hpush next).1 hnext
      obtain ⟨hcs, hm⟩ := (ih hvalue).1 hrest
      exact ⟨⟨hc, hcs⟩, hm⟩
    · rintro ⟨⟨hc, hcs⟩, hm⟩
      -- the number so far is no greater than the whole one, which fits
      have hle := le_foldl_digitValue (k * 10 + digitValue c) cs
      obtain ⟨next, hvalue⟩ : ∃ t : Int64, t.toInt = (k * 10 + digitValue c : Nat) :=
        exists_toInt_eq_of_le (m := m) (by omega) (by omega)
      exact ⟨next, (hpush next).2 ⟨hc, hvalue⟩, (ih hvalue).2 ⟨hcs, hm⟩⟩

/-- A numeral is read if its number fits, and then the number is exact. -/
theorem read?_eq_some_iff {s : String} {n : Int64} :
    read? s = some n ↔ ∃ v, Denotes s v ∧ n.toInt = v := by
  simp only [read?, denotes_iff, ne_eq, String.toList_eq_nil_iff]
  split
  · rename_i hempty
    simp [hempty]
  · rename_i hne
    rw [foldlM_push?_eq_some_iff (k := 0) rfl]
    simp [hne, value]

end Text.Decimal

namespace Value

open Text

/-! ## What a text is read as -/

theorem isNumeral_iff {s : String} :
    IsNumeral s.toList ↔ ∃ v ≤ maxInt, Decimal.Denotes s v := by
  simp only [Decimal.denotes_iff, IsNumeral]
  constructor
  · rintro ⟨hne, hdigits, hmax⟩
    exact ⟨_, hmax, hne, hdigits, rfl⟩
  · rintro ⟨_, hmax, hne, hdigits, rfl⟩
    exact ⟨hne, hdigits, hmax⟩

theorem parse_of_denotes {s : String} {v : Nat} (h : Decimal.Denotes s v) (hv : v ≤ maxInt) :
    parse s = .int (Int64.ofNat v) := by
  rw [parse, if_pos (isNumeral_iff.2 ⟨v, hv, h⟩), (Decimal.denotes_iff.1 h).2.2]

/-- A text is an integer if it is a numeral of a number that fits, and it is that number. -/
theorem parse_eq_int_iff {s : String} {n : Int64} :
    parse s = .int n ↔ ∃ v, Decimal.Denotes s v ∧ v ≤ maxInt ∧ n.toInt = v := by
  have hword : ∀ v ≤ maxInt, (Int64.ofNat v).toInt = v := fun v hv =>
    Int64.toInt_ofNat_of_lt (Nat.lt_succ_of_le hv)
  constructor
  · intro h
    by_cases hs : IsNumeral s.toList
    · obtain ⟨v, hv, hdenotes⟩ := isNumeral_iff.1 hs
      rw [parse_of_denotes hdenotes hv, Value.int.injEq] at h
      exact ⟨v, hdenotes, hv, h ▸ hword v hv⟩
    · rw [parse, if_neg hs] at h
      cases h
  · rintro ⟨v, hdenotes, hv, hn⟩
    rw [parse_of_denotes hdenotes hv, Value.int.injEq, ← Int64.toInt_inj, hword v hv, hn]

/-- All other texts stay as they are. -/
theorem parse_eq_text_iff {s t : String} :
    parse s = .text t ↔ t = s ∧ ¬ ∃ v ≤ maxInt, Decimal.Denotes s v := by
  rw [← isNumeral_iff, parse]
  split
  · rename_i hs
    simp [hs]
  · rename_i hs
    simp [hs, eq_comm]

/-- Reading in 64 bits is enough: it fails on the texts that stay as they are. -/
theorem parse_eq_elim_read? (s : String) : parse s = (Decimal.read? s).elim (.text s) .int := by
  cases hread : Decimal.read? s with
  | some n =>
    obtain ⟨v, hdenotes, hn⟩ := Decimal.read?_eq_some_iff.1 hread
    have hmax := n.toInt_lt
    exact parse_eq_int_iff.2 ⟨v, hdenotes, by rw [maxInt]; omega, hn⟩
  | none =>
    refine parse_eq_text_iff.2 ⟨rfl, ?_⟩
    rintro ⟨v, hv, hdenotes⟩
    obtain ⟨w, hw, -, hn⟩ := parse_eq_int_iff.1 (parse_of_denotes hdenotes hv)
    rw [Decimal.read?_eq_some_iff.2 ⟨w, hw, hn⟩] at hread
    cases hread

/-- Texts are read as the same value if they are the same, or numerals of one number that fits. -/
theorem parse_eq_parse_iff {s t : String} : parse s = parse t ↔
    s = t ∨ ∃ v ≤ maxInt, Decimal.Denotes s v ∧ Decimal.Denotes t v := by
  constructor
  · intro h
    cases hs : parse s with
    | int n =>
      obtain ⟨v, hv, hmax, hn⟩ := parse_eq_int_iff.1 hs
      obtain ⟨w, hw, -, hn'⟩ := parse_eq_int_iff.1 (h.symm.trans hs)
      obtain rfl : v = w := Int.natCast_inj.1 (hn.symm.trans hn')
      exact .inr ⟨v, hmax, hv, hw⟩
    | text u =>
      exact .inl ((parse_eq_text_iff.1 hs).1.symm.trans (parse_eq_text_iff.1 (h.symm.trans hs)).1)
  · rintro (rfl | ⟨v, hv, hs, ht⟩)
    · rfl
    · rw [parse_of_denotes hs hv, parse_of_denotes ht hv]

/-- **What a text is read as.** A text is an integer if it is a numeral, with any number of leading
zeros, of a number that is at most the greatest one in 64 bits with sign, and it is that number; all
other texts stay as they are. To find the number it is enough to read the digits from the left in 64
bits and to stop where one no longer fits. Reading what was written of a value that was read gives
the value back, so that two of them are not written alike; and two texts are read as one value only
if they are the same or numerals of the same number. -/
theorem parse_determined :
    (∀ s n, parse s = .int n ↔
      ∃ v : Nat, Decimal.Denotes s v ∧ v ≤ 9223372036854775807 ∧ n.toInt = v) ∧
    (∀ s t, parse s = .text t ↔ t = s ∧ ¬ ∃ v ≤ 9223372036854775807, Decimal.Denotes s v) ∧
    (∀ s, parse s = (Decimal.read? s).elim (.text s) .int) ∧
    (∀ s, parse (parse s).display = parse s) ∧
    (∀ s t, parse s = parse t ↔
      s = t ∨ ∃ v ≤ 9223372036854775807, Decimal.Denotes s v ∧ Decimal.Denotes t v) ∧
    Set.InjOn display (Set.range parse) := by
  have hback : Set.LeftInvOn parse display (Set.range parse) := by
    rintro _ ⟨s, rfl⟩
    exact parse_display (isCanonical_parse s)
  exact ⟨fun _ _ => parse_eq_int_iff, fun _ _ => parse_eq_text_iff, parse_eq_elim_read?,
    fun s => hback ⟨s, rfl⟩, fun _ _ => parse_eq_parse_iff, hback.injOn⟩

-- The greatest integer behind zeros, and the least number that does not fit.
example : parse "000000000009223372036854775807" = .int 9223372036854775807 ∧
    parse "9223372036854775808" = .text "9223372036854775808" := by decide

end Value

end SweepPlot
