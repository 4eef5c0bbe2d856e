import SweepPlot.Proofs.Grouping.Key

/-!
# Reading keys

A key names a set of constraints. It is cut into segments and the segments into names and values
again, and the values are typed anew, so that not every set can be read off its key.

* `Constraints.Legible` says what names and values have to be like: names hold no delimiter, and
  values hold no `_` and are what their texts stand for. They may hold `=`, as a segment is cut at
  its first one, and both may be empty.
* `Constraints.parseKey_legible` says that what is read off a key is always so, and
  `Constraints.parseKey_key_iff` that these are the sets which are read back.
* `Constraints.Legible.key_inj` says that such sets with the same key are equal.
-/

namespace SweepPlot

open Text

/-- A name that stands in a key as it is. -/
def IsKeyName (name : String) : Prop := '_' ∉ name.toList ∧ '=' ∉ name.toList

instance (name : String) : Decidable (IsKeyName name) :=
  inferInstanceAs (Decidable ('_' ∉ name.toList ∧ '=' ∉ name.toList))

/-- A value that a key shows and that is read off it again: an integer that is not negative, or a
text without `_` that reads as no integer. -/
def Value.IsKeyValue : Value → Prop
  | .int n => 0 ≤ n.toInt
  | .text s => '_' ∉ s.toList ∧ ¬ IsNumeral s.toList

instance : DecidablePred Value.IsKeyValue
  | .int n => inferInstanceAs (Decidable (0 ≤ n.toInt))
  | .text s => inferInstanceAs (Decidable ('_' ∉ s.toList ∧ ¬ Value.IsNumeral s.toList))

theorem Value.isKeyValue_iff {v : Value} :
    v.IsKeyValue ↔ v.IsCanonical ∧ '_' ∉ v.display.toList := by
  cases v with
  | text s => exact and_comm
  | int n =>
    refine ⟨fun h => ⟨h, ?_⟩, fun h => h.1⟩
    rw [display_int h, String.toList_ofList]
    exact Decimal.not_mem_digits (by decide) _

namespace Constraints

/-- The names and values stand in a key so that they are read off it again. -/
def Legible (c : Constraints) : Prop := ∀ b ∈ c.toList, IsKeyName b.1 ∧ b.2.IsKeyValue

instance (c : Constraints) : Decidable c.Legible :=
  inferInstanceAs (Decidable (∀ b ∈ c.toList, IsKeyName b.1 ∧ b.2.IsKeyValue))

/-! ## Segments -/

/-- A segment with a name without `=` is cut after the name. -/
theorem splitOnce_segment {b : String × Value} (h : IsKeyName b.1) :
    splitOnce valueDelimiter (segment b) = some (b.1, b.2.display) := by
  have hcut : cut valueDelimiter (segment b).toList = some (b.1.toList, b.2.display.toList) :=
    cut_eq_some_iff.2 ⟨by simp [segment], h.2⟩
  simp [splitOnce, hcut]

/-- Segments with such names are cut into names and written values. -/
theorem filterMap_splitOnce_segment {l : List (String × Value)} (h : ∀ b ∈ l, IsKeyName b.1) :
    (l.map segment).filterMap (splitOnce valueDelimiter) = l.map fun b => (b.1, b.2.display) := by
  induction l with
  | nil => rfl
  | cons b l ih =>
    rw [List.forall_mem_cons] at h
    rw [List.map_cons, List.filterMap_cons_some (splitOnce_segment h.1), ih h.2, List.map_cons]

/-- The segments of legible constraints hold no `_`. -/
theorem Legible.not_mem_segment {c : Constraints} (h : c.Legible) {b : String × Value}
    (hb : b ∈ c.toList) : segmentDelimiter ∉ (segment b).toList := by
  obtain ⟨hname, hvalue⟩ := h b hb
  have hvalue := (Value.isKeyValue_iff.1 hvalue).2
  simp [segment, segmentDelimiter, valueDelimiter, hname.1, hvalue]

/-- The key of legible constraints is cut into their segments. -/
theorem Legible.split_key {c : Constraints} (h : c.Legible) (hne : c.toList ≠ []) :
    split segmentDelimiter c.key = c.toList.map segment := by
  refine split_intercalate (by simpa using hne) fun s hs => ?_
  obtain ⟨b, hb, rfl⟩ := List.mem_map.1 hs
  exact h.not_mem_segment hb

/-! ## Reading -/

/-- What is read off a key is legible. -/
theorem parseKey_legible (key : String) : (parseKey key).Legible := by
  intro b hb
  obtain ⟨⟨name, raw⟩, hpair, rfl⟩ := List.mem_map.1 (NameMap.mem_of_mem_ofList hb)
  obtain ⟨piece, hpiece, honce⟩ := List.mem_filterMap.1 hpair
  obtain ⟨⟨x, y⟩, hcut, heq⟩ := Option.map_eq_some_iff.1 honce
  cases heq
  obtain ⟨hxy, hx⟩ := cut_eq_some_iff.1 hcut
  have hsegment := delimiter_not_mem_of_mem_split hpiece
  rw [hxy, List.mem_append, List.mem_cons, not_or, not_or] at hsegment
  obtain ⟨hxsegment, -, hysegment⟩ := hsegment
  refine ⟨⟨by rwa [String.toList_ofList], by rwa [String.toList_ofList]⟩,
    Value.isKeyValue_iff.2 ⟨Value.isCanonical_parse _, ?_⟩⟩
  exact Value.not_mem_display_parse (by decide) (by rwa [String.toList_ofList])

/-- Legible constraints are read off their key. -/
theorem Legible.parseKey_key {c : Constraints} (h : c.Legible) : parseKey c.key = c := by
  have hread : ((split segmentDelimiter c.key).filterMap (splitOnce valueDelimiter)).map
      (fun pair => (pair.1, Value.parse pair.2)) = c.toList := by
    by_cases hne : c.toList = []
    · simp [key, hne, split, splitOnce, cut]
    · rw [h.split_key hne, filterMap_splitOnce_segment fun b hb => (h b hb).1, List.map_map]
      refine (List.map_congr_left fun b hb => ?_).trans (List.map_id _)
      have hvalue := Value.parse_display (Value.isKeyValue_iff.1 (h b hb).2).1
      exact Prod.ext rfl hvalue
  show ofList (((split segmentDelimiter c.key).filterMap (splitOnce valueDelimiter)).map
    fun pair => (pair.1, Value.parse pair.2)) = c
  rw [hread]
  exact congrArg Constraints.mk (NameMap.ofList_toList c.bindings)

/-- Legible constraints are told apart by their keys. -/
theorem Legible.key_inj {c c' : Constraints} (h : c.Legible) (h' : c'.Legible)
    (hkey : c.key = c'.key) : c = c' := by
  rw [← h.parseKey_key, hkey, h'.parseKey_key]

/-- **Constraints are read off their key exactly if they are legible**: no name holds a delimiter,
and every value is an integer that is not negative or a text without `_` that reads as none. -/
theorem parseKey_key_iff (c : Constraints) :
    parseKey c.key = c ↔ ∀ b ∈ c.toList, ('_' ∉ b.1.toList ∧ '=' ∉ b.1.toList) ∧
      match b.2 with
      | .int n => 0 ≤ n.toInt
      | .text s => '_' ∉ s.toList ∧
        ¬ (s.toList ≠ [] ∧ s.toList.all Char.isDigit = true ∧
          Decimal.value s.toList ≤ 9223372036854775807) := by
  have hlegible : c.Legible ↔ parseKey c.key = c :=
    ⟨fun h => h.parseKey_key, fun h => h ▸ parseKey_legible c.key⟩
  rw [← hlegible]
  refine forall₂_congr fun b _ => and_congr_right fun _ => ?_
  obtain ⟨name, value⟩ := b
  cases value with
  | int n => exact Iff.rfl
  | text s => exact Iff.rfl

/-- A text of digits comes back as an integer. -/
example : parseKey (single "n" (.text "07")).key = single "n" (.int 7) := by decide +kernel

end Constraints

end SweepPlot
