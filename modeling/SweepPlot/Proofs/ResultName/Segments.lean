import SweepPlot.ResultName

/-!
# The segments of a result name

Every parameter of a result is given by a segment of its file name (`exists_segment_of_parse`). The
name and the raw value of the parameter therefore hold neither delimiter and no character that the
file name does not have (`exists_raw_of_parse`).
-/

namespace SweepPlot.ResultName

open Text

theorem segment?_eq_some_iff {segment name raw : String} :
    segment? segment = some (name, raw) ↔ split valueDelimiter segment = [name, raw] := by
  unfold segment?
  split
  · rename_i hsplit
    rw [hsplit]
    simp
  · rename_i hno
    exact ⟨fun h => (nomatch h), fun h => absurd h (hno name raw)⟩

/-- A segment that is accepted gives a new parameter. -/
theorem addSegment_ok {filename segment : String} {p p' : Parameters}
    (h : addSegment filename p segment = .ok p') :
    ∃ name raw, segment? segment = some (name, raw) ∧ p.get? name = none ∧
      p' = p.insert name (Value.parse raw) := by
  unfold addSegment at h
  split at h
  · cases h
  · rename_i name raw hseg
    split at h
    · cases h
    · rename_i hnew
      cases h
      exact ⟨name, raw, hseg, by simpa using hnew, rfl⟩

/-- After segments are added, a parameter was there before or is given by one of them. -/
theorem get?_foldlM_addSegment {filename : String} {segments : List String} {start p : Parameters}
    (h : segments.foldlM (addSegment filename) start = .ok p) {name : String} {value : Value}
    (hv : p.get? name = some value) :
    start.get? name = some value ∨ ∃ segment ∈ segments, ∃ raw,
      segment? segment = some (name, raw) ∧ value = Value.parse raw := by
  induction segments generalizing start with
  | nil =>
    cases h
    exact .inl hv
  | cons segment segments ih =>
    rw [List.foldlM_cons] at h
    rcases hadd : addSegment filename start segment with e | next <;> rw [hadd] at h
    · cases h
    · obtain ⟨name', raw, hseg, -, rfl⟩ := addSegment_ok hadd
      rcases ih h with hstart | ⟨segment', hmem, hgiven⟩
      · rw [Parameters.get?_insert] at hstart
        split at hstart
        · rename_i heq
          cases hstart
          exact .inr ⟨segment, List.mem_cons_self, raw, heq ▸ hseg, rfl⟩
        · exact .inl hstart
      · exact .inr ⟨segment', List.mem_cons_of_mem _ hmem, hgiven⟩

/-- Every parameter of a result is given by a segment of its file name. -/
theorem exists_segment_of_parse {filename label : String} {p : Parameters}
    (h : parse filename = .ok (label, p)) {name : String} {value : Value}
    (hv : p.get? name = some value) :
    ∃ segment ∈ split segmentDelimiter filename, ∃ raw,
      segment? segment = some (name, raw) ∧ value = Value.parse raw := by
  unfold parse at h
  split at h
  · cases h
    cases hv
  · rename_i first segments hsplit
    rcases hf : segments.foldlM (addSegment filename) Parameters.empty with e | p' <;> rw [hf] at h
    · cases h
    · cases h
      rcases get?_foldlM_addSegment hf hv with hempty | ⟨segment, hmem, hgiven⟩
      · cases hempty
      · exact ⟨segment, hsplit ▸ List.mem_cons_of_mem _ hmem, hgiven⟩

/-- Every value of a result is read off a part of its file name without delimiters. -/
theorem exists_raw_of_parse {filename label : String} {p : Parameters}
    (h : parse filename = .ok (label, p)) {name : String} {value : Value}
    (hv : p.get? name = some value) :
    ∃ raw, value = Value.parse raw ∧ segmentDelimiter ∉ raw.toList ∧
      valueDelimiter ∉ raw.toList ∧ ∀ x ∈ raw.toList, x ∈ filename.toList := by
  obtain ⟨segment, hmem, raw, hseg, rfl⟩ := exists_segment_of_parse h hv
  have hraw : raw ∈ split valueDelimiter segment := by simp [segment?_eq_some_iff.1 hseg]
  exact ⟨raw, rfl, fun hx => delimiter_not_mem_of_mem_split hmem (mem_of_mem_split hraw hx),
    delimiter_not_mem_of_mem_split hraw,
    fun x hx => mem_of_mem_split hmem (mem_of_mem_split hraw hx)⟩

end SweepPlot.ResultName
