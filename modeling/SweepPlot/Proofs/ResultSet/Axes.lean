import SweepPlot.Proofs.ResultSet.Members

/-!
# The axes of a set of results

The values of a parameter are found in two ways: all axes at once, by going through the parameters
of every result, or those of one name, by looking the name up in every result.

* `axisValues_ne_empty_iff` says which names have values; `mem_axes_iff` says that both ways agree:
  the axes are the names with values, with these values.
* `Adds` relates a set to one with a further result; `Adds.axisValues_eq` says what that changes,
  and `Adds.mem_axes` what becomes of the axes.
* `axes_determined` puts both together for sets that are made from file names.
-/

namespace SweepPlot

theorem ValueSet.toList_eq_nil_iff {s : ValueSet} : s.toList = [] ↔ s = ∅ := by
  constructor
  · intro h
    obtain ⟨l, _⟩ := s
    obtain rfl : l = [] := h
    rfl
  · rintro rfl
    rfl

namespace ResultSet

variable {r r' : ResultSet}

/-- A name has values exactly if some result has a parameter with the name. -/
theorem axisValues_ne_empty_iff {name : String} :
    r.axisValues name ≠ ∅ ↔ ∃ e ∈ r.entries, ∃ value, e.parameters.get? name = some value := by
  rw [ne_eq, ← ValueSet.toList_eq_nil_iff]
  constructor
  · intro hne
    obtain ⟨value, hvalue⟩ := List.exists_mem_of_ne_nil _ hne
    obtain ⟨e, he, hget⟩ := mem_axisValues.1 hvalue
    exact ⟨e, he, value, hget⟩
  · rintro ⟨e, he, value, hget⟩
    exact List.ne_nil_of_mem (mem_axisValues.2 ⟨e, he, hget⟩)

/-- The axes are the names with values, with these values. -/
theorem mem_axes_iff {a : Axis} :
    a ∈ r.axes ↔ a.values = r.axisValues a.name ∧ r.axisValues a.name ≠ ∅ := by
  rw [mem_axes, axisValues_ne_empty_iff]

/-- The names of the axes are those with values. -/
theorem mem_map_name_axes {name : String} :
    name ∈ r.axes.map (·.name) ↔ r.axisValues name ≠ ∅ := by
  rw [List.mem_map]
  constructor
  · rintro ⟨a, ha, rfl⟩
    exact (mem_axes_iff.1 ha).2
  · intro h
    exact ⟨⟨name, r.axisValues name⟩, mem_axes_iff.2 ⟨rfl, h⟩, rfl⟩

theorem not_mem_map_name_axes {name : String} :
    name ∉ r.axes.map (·.name) ↔ r.axisValues name = ∅ :=
  (not_congr mem_map_name_axes).trans Decidable.not_not

/-! ## One more result -/

/-- The second set has the results of the first one and a further one. -/
def Adds (r : ResultSet) (new : Entry) (r' : ResultSet) : Prop :=
  ∀ e, e ∈ r'.entries ↔ e = new ∨ e ∈ r.entries

/-- A further file name adds its result, wherever it stands. -/
theorem adds_of_filenames {before after : List String} {new : Entry} {label : String}
    (hnames : r.filenames = before ++ after)
    (hnew : ResultName.parse new.filename = .ok (label, new.parameters))
    (hnames' : r'.filenames = before ++ new.filename :: after) : r.Adds new r' := by
  intro e
  rw [entries_eq_map r', entries_eq_map r, hnames, hnames']
  simp only [List.map_append, List.map_cons, List.mem_append, List.mem_cons,
    Entry.ofFilename_filename hnew, or_left_comm]

/-- A further file name with the label of the others gives a set of results again. -/
theorem exists_ofFilenames_insert {before after : List String} {new : Entry} {label : String}
    (hnames : r.filenames = before ++ after)
    (hnew : ResultName.parse new.filename = .ok (label, new.parameters))
    (hlabel : r.entries = [] ∨ label = r.label) :
    ∃ r', ofFilenames (before ++ new.filename :: after) = .ok r' := by
  refine exists_ofFilenames_iff.2 ⟨label, fun name hname => ?_⟩
  have hcases : name = new.filename ∨ name ∈ r.filenames := by
    rw [hnames]
    simpa only [List.mem_append, List.mem_cons, or_left_comm] using hname
  rcases hcases with rfl | hmem
  · exact ⟨_, hnew⟩
  · obtain ⟨e, he, rfl⟩ := List.mem_map.1 hmem
    rcases hlabel with hnil | rfl
    · rw [hnil] at he
      cases he
    · exact ⟨_, r.parsed e he⟩

/-- A further result adds its own values. -/
theorem Adds.axisValues_eq {new : Entry} (h : r.Adds new r') (name : String) :
    r'.axisValues name = match new.parameters.get? name with
      | none => r.axisValues name
      | some value => (r.axisValues name).insert value := by
  have hmem : ∀ v, v ∈ r'.axisValues name ↔
      new.parameters.get? name = some v ∨ v ∈ r.axisValues name := by
    intro v
    simp only [mem_axisValues, h _, or_and_right, exists_or, exists_eq_left]
  refine ValueSet.ext_mem fun v => ?_
  rw [hmem]
  split
  · rename_i hnone
    simp [hnone]
  · rename_i value hsome
    rw [hsome, Option.some.injEq, ValueSet.mem_insert, eq_comm]

/-- The axes after a further result: those it says nothing about are as they were, and each of its
values is added to the axis of its name, which is made if there was none. -/
theorem Adds.mem_axes {new : Entry} (h : r.Adds new r') (a : Axis) :
    a ∈ r'.axes ↔ match new.parameters.get? a.name with
      | none => a ∈ r.axes
      | some value =>
        (∃ old ∈ r.axes, old.name = a.name ∧ a.values = old.values.insert value) ∨
          (a.name ∉ r.axes.map (·.name) ∧ a.values = ValueSet.insert ∅ value) := by
  have hvalues := h.axisValues_eq a.name
  rw [mem_axes_iff, not_mem_map_name_axes]
  cases hget : new.parameters.get? a.name with
  | none =>
    rw [hget] at hvalues
    rw [hvalues, mem_axes_iff]
  | some value =>
    rw [hget] at hvalues
    have hne : r'.axisValues a.name ≠ ∅ := by
      rw [hvalues, ne_eq, ← ValueSet.toList_eq_nil_iff]
      exact List.ne_nil_of_mem (ValueSet.mem_insert.2 (.inl rfl))
    rw [and_iff_left hne, hvalues]
    constructor
    · intro hadded
      by_cases hempty : r.axisValues a.name = ∅
      · exact .inr ⟨hempty, hempty ▸ hadded⟩
      · exact .inl ⟨⟨a.name, r.axisValues a.name⟩, mem_axes_iff.2 ⟨rfl, hempty⟩, rfl, hadded⟩
    · rintro (⟨old, hold, hname, hadded⟩ | ⟨hempty, hadded⟩)
      · rw [hadded, (mem_axes_iff.1 hold).1, hname]
      · rw [hadded, hempty]

/-- **The axes are determined.** They are listed in strictly increasing order of their names, which
are the names that some result has a parameter of. Each has the values that are found for its name
alone, at least one, in strictly increasing order, and these are the values that the results have;
for other names none are found. A further file name with the same label gives a set again, wherever
it stands, and of its axes only those differ that it has a parameter of: the value is added, and an
axis with it alone is made where there was none. -/
theorem axes_determined (r : ResultSet) :
    (r.axes.map (·.name)).Pairwise (· < ·) ∧
    (∀ name, name ∈ r.axes.map (·.name) ↔
      ∃ e ∈ r.entries, ∃ value, e.parameters.get? name = some value) ∧
    (∀ a ∈ r.axes, a.values = r.axisValues a.name ∧ a.values.toList ≠ []) ∧
    (∀ name, (r.axisValues name).toList.Pairwise (· < ·) ∧
      ∀ value, value ∈ (r.axisValues name).toList ↔
        ∃ e ∈ r.entries, e.parameters.get? name = some value) ∧
    (∀ name, name ∉ r.axes.map (·.name) → (r.axisValues name).toList = []) ∧
    ∀ before after name label p, r.filenames = before ++ after →
      ResultName.parse name = .ok (label, p) → (r.entries = [] ∨ label = r.label) →
      ∃ r', ofFilenames (before ++ name :: after) = .ok r' ∧ ∀ a : Axis,
        a ∈ r'.axes ↔ match p.get? a.name with
          | none => a ∈ r.axes
          | some value =>
            (∃ old ∈ r.axes, old.name = a.name ∧ a.values = old.values.insert value) ∨
              (a.name ∉ r.axes.map (·.name) ∧ a.values = ValueSet.insert ∅ value) := by
  refine ⟨List.pairwise_map.2 r.pairwise_axes,
    fun name => mem_map_name_axes.trans axisValues_ne_empty_iff, fun a ha => ?_,
    fun name => ⟨(r.axisValues name).sorted, fun value => mem_axisValues⟩,
    fun name h => ValueSet.toList_eq_nil_iff.2 (not_mem_map_name_axes.1 h), ?_⟩
  · obtain ⟨hvalues, hne⟩ := mem_axes_iff.1 ha
    exact ⟨hvalues, fun hnil => hne (hvalues ▸ ValueSet.toList_eq_nil_iff.1 hnil)⟩
  · intro before after name label p hnames hparse hlabel
    have hnew : ResultName.parse (Entry.mk name p).filename = .ok (label, p) := hparse
    obtain ⟨r', hr'⟩ := exists_ofFilenames_insert hnames hnew hlabel
    obtain ⟨hnames', -⟩ := ofFilenames_eq_ok_iff.1 hr'
    exact ⟨r', hr', (adds_of_filenames hnames hnew hnames').mem_axes⟩

/-- Two results with one parameter in common. -/
def sampleSweep : ResultSet where
  label := "b"
  entries := [⟨"b_n=2", .ofList [("n", .int 2)]⟩,
    ⟨"b_n=1_k=x", .ofList [("n", .int 1), ("k", .text "x")]⟩]
  parsed e he := by
    rcases List.mem_cons.1 he with rfl | he
    · rfl
    · cases List.mem_singleton.1 he
      rfl

/-- A result between the two that has a new value for one parameter, none for another one and a
parameter of its own. -/
theorem axes_determined_between : sampleSweep.axisValues "w" = ∅ ∧
    ∃ r', ofFilenames ["b_n=2", "b_w=4_n=10", "b_n=1_k=x"] = .ok r' ∧
      (⟨"n", .ofList [.int 1, .int 2, .int 10]⟩ : Axis) ∈ r'.axes ∧
      (⟨"k", .ofList [.text "x"]⟩ : Axis) ∈ r'.axes ∧
      (⟨"w", .ofList [.int 4]⟩ : Axis) ∈ r'.axes := by
  obtain ⟨-, -, -, -, hfree, hadd⟩ := axes_determined sampleSweep
  obtain ⟨r', hr', haxes⟩ := hadd ["b_n=2"] ["b_n=1_k=x"] "b_w=4_n=10" "b"
    (.ofList [("w", .int 4), ("n", .int 10)]) rfl rfl (.inr rfl)
  refine ⟨ValueSet.toList_eq_nil_iff.1 (hfree "w" (by decide)), r', hr', (haxes _).2 ?_,
    (haxes _).2 ?_, (haxes _).2 ?_⟩
  · exact .inl ⟨⟨"n", .ofList [.int 1, .int 2]⟩, by decide, rfl, by decide⟩
  · show (⟨"k", .ofList [.text "x"]⟩ : Axis) ∈ sampleSweep.axes
    decide
  · exact .inr ⟨by decide, by decide⟩

end ResultSet

end SweepPlot
