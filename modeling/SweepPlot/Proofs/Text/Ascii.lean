import Mathlib.Data.List.Basic
import SweepPlot.Proofs.Text.ByteOrder

/-!
# Characters of one byte

A character below 128 is one byte, which is in no other character (`eq_of_mem_encodeChar`). So the
bytes of a text show where such a character stands: `mem_encode_iff` says so for any place, and
`getLast?_encode_iff` for the last one.
-/

namespace SweepPlot.Text.Utf8

variable {c d : Char} {s : String}

theorem encode_append (a b : String) : encode (a ++ b) = encode a ++ encode b := by
  rw [encode_eq_flatMap, encode_eq_flatMap, encode_eq_flatMap, String.toList_append,
    List.flatMap_append]

theorem encode_eq_nil_iff : encode s = [] ↔ s = "" := by
  rw [encode_eq_flatMap, List.flatMap_eq_nil_iff, ← String.toList_eq_nil_iff,
    List.eq_nil_iff_forall_not_mem]
  simp

theorem encodeChar_of_lt (hc : c.toNat < 128) :
    String.utf8EncodeChar c = [UInt8.ofNat c.toNat] := by
  have h : c.val.toNat ≤ 127 := Nat.le_of_lt_succ hc
  unfold String.utf8EncodeChar
  simp only [h, if_true]
  rfl

/-- The bytes of a longer character are all greater. -/
theorem eq_of_mem_encodeChar (hc : c.toNat < 128)
    (h : UInt8.ofNat c.toNat ∈ String.utf8EncodeChar d) : d = c := by
  have hcode : d.val.toNat = c.val.toNat := by
    have hn : c.val.toNat < 128 := hc
    change UInt8.ofNat c.val.toNat ∈ String.utf8EncodeChar d at h
    unfold String.utf8EncodeChar at h
    generalize c.val.toNat = n at hn h ⊢
    generalize d.val.toNat = m at h ⊢
    simp only [] at h
    split_ifs at h <;> simp (disch := omega) only [List.mem_cons, List.not_mem_nil, or_false,
      ofNat_inj] at h <;> omega
  exact Char.ext (UInt32.toNat_inj.1 hcode)

/-- A text has a character of one byte if it has the byte. -/
theorem mem_encode_iff (hc : c.toNat < 128) :
    UInt8.ofNat c.toNat ∈ encode s ↔ c ∈ s.toList := by
  rw [encode_eq_flatMap, List.mem_flatMap]
  constructor
  · rintro ⟨d, hd, hmem⟩
    exact eq_of_mem_encodeChar hc hmem ▸ hd
  · intro h
    refine ⟨c, h, ?_⟩
    rw [encodeChar_of_lt hc]
    exact List.mem_singleton_self _

/-- A text ends in a character of one byte if its bytes end in the byte. -/
theorem getLast?_encode_iff (hc : c.toNat < 128) :
    (encode s).getLast? = some (UInt8.ofNat c.toNat) ↔ s.toList.getLast? = some c := by
  rw [encode_eq_flatMap]
  rcases List.eq_nil_or_concat s.toList with hs | ⟨init, d, hs⟩
  · simp [hs]
  · have hne : String.utf8EncodeChar d ≠ [] := by simp
    rw [hs, List.concat_eq_append, List.flatMap_append, List.flatMap_singleton,
      List.getLast?_append_of_ne_nil _ hne, List.getLast?_concat, Option.some_inj]
    constructor
    · exact fun h => eq_of_mem_encodeChar hc (List.mem_of_getLast? h)
    · rintro rfl
      rw [encodeChar_of_lt hc, List.getLast?_singleton]

/-- Without such a character at its end a text is without its byte. -/
theorem dropLast_encode (hc : c.toNat < 128) (h : s.toList.getLast? = some c) :
    (encode s).dropLast = encode (String.ofList s.toList.dropLast) := by
  obtain ⟨init, hs⟩ := List.getLast?_eq_some_iff.1 h
  rw [encode_eq_flatMap, encode_eq_flatMap, String.toList_ofList, hs, List.dropLast_concat,
    List.flatMap_append, List.flatMap_singleton, encodeChar_of_lt hc, List.dropLast_concat]

end SweepPlot.Text.Utf8
