import SweepPlot.Selection

/-!
# What a selection takes

* `ResultSet.mem_select` and `ResultSet.select_perm` say that a selection consists of the matching
  results, listed in some order; those that are found in order stay as they are
  (`select_of_pairwise`).
* `ResultSet.eq_of_filename` says that a file name stands for one result.
* `ResultSet.positions` are the places of the selected results in the set. They tell results apart
  that are listed twice (`select_eq_positions`, `mem_positions`, `nodup_positions`).
-/

namespace SweepPlot

namespace ResultSet

variable (s : ResultSet) (c : Constraints) (q : Option Predicate) (o : Order)

/-- A selection lists the matching results. -/
theorem select_perm : (s.select c q o).Perm (s.entries.filter (·.matches c q)) :=
  List.mergeSort_perm _ _

variable {s c q o}

theorem mem_select {e : Entry} : e ∈ s.select c q o ↔ e ∈ s.entries ∧ e.matches c q = true := by
  rw [(s.select_perm c q o).mem_iff, List.mem_filter]

/-- Matching results that are found in order are listed as they are found. -/
theorem select_of_pairwise
    (h : (s.entries.filter (·.matches c q)).Pairwise fun a b => (o.compare a b).isLE = true) :
    s.select c q o = s.entries.filter (·.matches c q) :=
  List.mergeSort_of_pairwise h

/-- Results with the same file name are the same result. -/
theorem eq_of_filename {a b : Entry} (ha : a ∈ s.entries) (hb : b ∈ s.entries)
    (h : a.filename = b.filename) : a = b := by
  have hparsed : (s.label, a.parameters) = (s.label, b.parameters) :=
    Except.ok.inj ((s.parsed a ha).symm.trans (h ▸ s.parsed b hb))
  obtain ⟨filename, parameters⟩ := a
  obtain ⟨filename', parameters'⟩ := b
  obtain rfl : filename = filename' := h
  obtain rfl : parameters = parameters' := (Prod.mk.inj hparsed).2
  rfl

/-! ## Positions -/

variable (s c q o)

/-- The places of the selected results in the set, in the order of the selection. -/
def positions : List Nat :=
  ((s.entries.zipIdx.filter fun x => x.1.matches c q).mergeSort fun a b =>
    (o.compare a.1 b.1).isLE).map (·.2)

theorem filterMap_entries {l : List (Entry × Nat)}
    (h : ∀ x ∈ l, s.entries[x.2]? = some x.1) :
    (l.map (·.2)).filterMap (fun i => s.entries[i]?) = l.map (·.1) := by
  induction l with
  | nil => rfl
  | cons x l ih =>
    rw [List.forall_mem_cons] at h
    rw [List.map_cons, List.filterMap_cons_some h.1, ih h.2, List.map_cons]

/-- A selection lists the results at its places. -/
theorem select_eq_positions :
    s.select c q o = (s.positions c q o).filterMap fun i => s.entries[i]? := by
  have hentries : (s.entries.zipIdx.filter fun x => x.1.matches c q).map (·.1) =
      s.entries.filter fun e => e.matches c q := by
    conv => rhs; rw [← List.zipIdx_map_fst 0 s.entries, List.filter_map]
    rfl
  rw [positions, filterMap_entries, select, Order.sort, ← hentries,
    List.map_mergeSort (s := fun a b => (o.compare a b).isLE) fun _ _ _ _ => rfl]
  intro x hx
  exact List.mem_zipIdx_iff_getElem?.1 (List.mem_filter.1 (List.mem_mergeSort.1 hx)).1

variable {s c q o}

theorem mem_positions {i : Nat} :
    i ∈ s.positions c q o ↔ ∃ e, s.entries[i]? = some e ∧ e.matches c q = true := by
  simp only [positions, List.mem_map, List.mem_mergeSort, List.mem_filter,
    List.mem_zipIdx_iff_getElem?]
  constructor
  · rintro ⟨⟨e, j⟩, ⟨he, hm⟩, rfl⟩
    exact ⟨e, he, hm⟩
  · rintro ⟨e, he, hm⟩
    exact ⟨(e, i), ⟨he, hm⟩, rfl⟩

theorem nodup_positions : (s.positions c q o).Nodup := by
  have hall : (s.entries.zipIdx.map (·.2)).Nodup := by
    rw [List.zipIdx_map_snd]
    exact List.nodup_range'
  exact ((List.mergeSort_perm _ _).map _).symm.nodup ((List.filter_sublist.map _).nodup hall)

end ResultSet

end SweepPlot
