import SweepPlot.Proofs.ResultSet.Members
import SweepPlot.Proofs.Run.Outputs
import SweepPlot.Proofs.Selection.Sorted

/-!
# The order of the file names

The plots of a variant depend on which results there are, and not on the order in which their file
names were found or on names that were found more than once (`ofFilenames_same_names`). The curves
of one plot are in the order of the selection, which is that of the file names only where results
tie.
-/

namespace SweepPlot

/-- The groupings that have a plot depend on the members of the results only. -/
theorem Variant.plottedGroupings_eq_of_sameMembers {results results' : ResultSet} (v : Variant)
    (h : results.SameMembers results') :
    v.plottedGroupings results = v.plottedGroupings results' := by
  have hplot : v.hasPlot results = v.hasPlot results' := by
    funext g
    rw [hasPlot, hasPlot, v.matchesAny_eq_of_sameMembers h]
  rw [plottedGroupings, plottedGroupings, hplot, v.groupings_eq_of_sameMembers h]

namespace Plotter

open ResultSet

/-- **The plots do not depend on the order of the file names.** Two lists with the same names both
give results or neither does, and these results have the same label, axes, groupings and matching
groupings, so that runs with them that succeed give the same plots in the same order. If no name is
given more often in one list than in the other, then selections without ties are the same too. -/
theorem ofFilenames_same_names {names names' : List String}
    (h : ∀ name, name ∈ names ↔ name ∈ names') :
    ((∃ r, ofFilenames names = .ok r) ↔ ∃ r', ofFilenames names' = .ok r') ∧
    ∀ r r', ofFilenames names = .ok r → ofFilenames names' = .ok r' →
      r.label = r'.label ∧ r.axes = r'.axes ∧
      (∀ name, r.axisValues name = r'.axisValues name) ∧
      (∀ v : Variant, v.groupings r = v.groupings r' ∧
        (v.groupings r).filter (v.matchesAny r) = (v.groupings r').filter (v.matchesAny r') ∧
        ∀ p p' : Plotter, p.context = p'.context → ∀ s s' outputs outputs',
          (p.plotVariant r v s).1 = .ok outputs → (p'.plotVariant r' v s').1 = .ok outputs' →
          outputs = outputs') ∧
      (names.Perm names' → ∀ c q axis o, o = .ascending axis ∨ o = .descending axis →
        ((r.select c q o).map (·.parameters.get? axis)).Nodup →
        r.select c q o = r'.select c q o) := by
  refine ⟨?_, fun r r' hr hr' => ?_⟩
  · rw [exists_ofFilenames_iff, exists_ofFilenames_iff]
    exact exists_congr fun label => forall_congr' fun name => by rw [h name]
  have hlabel := label_eq_of_filenames h hr hr'
  obtain ⟨rfl, -⟩ := ofFilenames_eq_ok_iff.1 hr
  obtain ⟨rfl, -⟩ := ofFilenames_eq_ok_iff.1 hr'
  have hsame : r.SameMembers r' := sameMembers_of_filenames h
  refine ⟨hlabel, hsame.axes_eq, hsame.axisValues_eq, fun v => ?_, ?_⟩
  · have hgroupings := v.groupings_eq_of_sameMembers hsame
    have hmatches := v.matchesAny_eq_of_sameMembers hsame
    refine ⟨hgroupings, by rw [hgroupings, hmatches], ?_⟩
    intro p p' hp s s' outputs outputs' ho ho'
    rw [outputs_of_plotVariant p v r ho, outputs_of_plotVariant p' v r' ho', plots, plots,
      v.plottedGroupings_eq_of_sameMembers hsame, hp]
  · intro hperm c q axis o ho hties
    refine select_eq_of_perm ?_ ho hties
    rw [entries_eq_map r, entries_eq_map r']
    exact hperm.map _

/-- The two results in the other order. -/
def sampleReversed : ResultSet where
  label := "b"
  entries := sampleResults.entries.reverse
  parsed e he := sampleResults.parsed e (List.mem_reverse.1 he)

/-- Found in the other order, the results are listed otherwise, but sorted they are the same. -/
theorem ofFilenames_same_names_reversed :
    ∃ r r', ofFilenames ["b_n=2", "b_n=1"] = .ok r ∧ ofFilenames ["b_n=1", "b_n=2"] = .ok r' ∧
      r.filenames ≠ r'.filenames ∧ r.axes = r'.axes ∧
      r.select .empty none (.ascending "n") = r'.select .empty none (.ascending "n") := by
  have hr : ofFilenames ["b_n=2", "b_n=1"] = .ok sampleReversed :=
    ofFilenames_eq_ok_iff.2 ⟨rfl, by simp⟩
  have hr' : ofFilenames ["b_n=1", "b_n=2"] = .ok sampleResults :=
    ofFilenames_eq_ok_iff.2 ⟨rfl, by simp⟩
  have hperm : ["b_n=2", "b_n=1"].Perm ["b_n=1", "b_n=2"] := .swap ..
  obtain ⟨-, haxes, -, -, hselect⟩ :=
    (ofFilenames_same_names fun _ => hperm.mem_iff).2 _ _ hr hr'
  refine ⟨_, _, hr, hr', by decide, haxes, hselect hperm _ _ "n" _ (.inl rfl) ?_⟩
  refine (((select_perm ..).map _).nodup_iff).2 ?_
  decide +kernel

end Plotter

end SweepPlot
