import SweepPlot.Proofs.Listing.Visible
import SweepPlot.Proofs.ResultSet.Members
import SweepPlot.Proofs.Text.ByteOrder

/-!
# The results of a listing

A directory may list its entries in any order. The results are those with the names of the visible
files in increasing order, and there are results exactly if no entry has a failure, some file is
visible, and the names give results (`results_exact`).

* `failure?_eq_none_iff` and `name?_eq_some_iff` say which entries have no failure and which give a
  name.
* `results_eq` says what the results of a listing without failures are, and `exists_results_iff`
  when there are any.
* `results_of_perm` and `results_eq_of_perm` say that the order of the entries does not matter.
-/

namespace SweepPlot.Listing

open ResultSet

variable {l l' : Listing} {path : String}

theorem failure?_eq_none_iff {entry : FileName × Except IoFault EntryKind} :
    failure? entry = none ↔
      (∃ kind, entry.2 = .ok kind) ∧ (entry.2 = .ok .file → ∃ name, entry.1 = .text name) := by
  obtain ⟨name | bytes, fault | ⟨directory | file⟩⟩ := entry <;> simp [failure?]

theorem name?_eq_some_iff {entry : FileName × Except IoFault EntryKind} {name : String} :
    name? entry = some name ↔
      entry = (.text name, .ok .file) ∧ (FileName.text name).isHidden = false := by
  constructor
  · intro h
    unfold name? at h
    split at h
    · split at h
      · cases h
      · rename_i hhidden
        cases h
        exact ⟨rfl, by simpa using hhidden⟩
    · cases h
  · rintro ⟨rfl, hhidden⟩
    simp [name?, hhidden]

/-! ## Sorted names -/

/-- The names in increasing order. -/
def sortNames (names : List String) : List String := names.mergeSort fun a b => decide (a ≤ b)

theorem sortNames_perm (names : List String) : (sortNames names).Perm names :=
  List.mergeSort_perm _ _

theorem pairwise_sortNames (names : List String) : (sortNames names).Pairwise (· ≤ ·) := by
  have hsorted := @List.pairwise_mergeSort _ (fun a b : String => decide (a ≤ b))
    (fun a b c hab hbc => by
      simp only [decide_eq_true_eq] at *
      exact String.le_trans hab hbc)
    (fun a b => by
      simp only [Bool.or_eq_true, decide_eq_true_eq]
      exact String.le_total a b) names
  exact hsorted.imp fun h => of_decide_eq_true h

theorem sortNames_eq_of_perm {names names' : List String} (h : names.Perm names') :
    sortNames names = sortNames names' := by
  have hperm := (sortNames_perm names).trans (h.trans (sortNames_perm names').symm)
  exact hperm.eq_of_pairwise (fun _ _ _ _ => String.le_antisymm) (pairwise_sortNames _)
    (pairwise_sortNames _)

/-- The order of file names does not matter to whether they give results. -/
theorem exists_ofFilenames_sortNames_iff {names : List String} :
    (∃ r, ofFilenames (sortNames names) = .ok r) ↔ ∃ r, ofFilenames names = .ok r := by
  rw [exists_ofFilenames_iff, exists_ofFilenames_iff]
  simp only [(sortNames_perm names).mem_iff]

/-! ## Results -/

theorem results_eq (h : ∀ x ∈ l, failure? x = none) :
    l.results path = if l.filterMap name? = [] then .error (.emptyResultSet path)
      else ofFilenames (sortNames (l.filterMap name?)) := by
  have hnone : l.findSome? failure? = none := List.findSome?_eq_none_iff.2 h
  rw [results, resultNames_eq, hnone]
  rfl

/-- A listing has no results if an entry has a failure. -/
theorem exists_error_of_failure (h : ¬ ∀ x ∈ l, failure? x = none) :
    ∃ e, l.results path = .error e := by
  cases hfirst : l.findSome? failure? with
  | none => exact absurd (List.findSome?_eq_none_iff.1 hfirst) h
  | some e => exact ⟨e, results_of_failure hfirst path⟩

theorem exists_results_iff :
    (∃ r, l.results path = .ok r) ↔ (∀ x ∈ l, failure? x = none) ∧ l.filterMap name? ≠ [] ∧
      ∃ r, ofFilenames (l.filterMap name?) = .ok r := by
  by_cases h : ∀ x ∈ l, failure? x = none
  · rw [results_eq h, ← exists_ofFilenames_sortNames_iff]
    by_cases hnil : l.filterMap name? = []
    · simp [hnil]
    · rw [if_neg hnil]
      exact ⟨fun hr => ⟨h, hnil, hr⟩, fun hr => hr.2.2⟩
  · obtain ⟨e, he⟩ := @exists_error_of_failure l path h
    rw [he]
    exact ⟨fun ⟨r, hr⟩ => (nomatch hr), fun hr => absurd hr.1 h⟩

/-- If no entry has a failure, the order of the entries does not matter. -/
theorem results_eq_of_perm (hperm : l'.Perm l) (h : ∀ x ∈ l, failure? x = none) :
    l'.results path = l.results path := by
  have h' : ∀ x ∈ l', failure? x = none := fun x hx => h x (hperm.mem_iff.1 hx)
  have hnames := hperm.filterMap name?
  have hnil : l'.filterMap name? = [] ↔ l.filterMap name? = [] := by
    rw [← List.length_eq_zero_iff, hnames.length_eq, List.length_eq_zero_iff]
  rw [results_eq h, results_eq h', sortNames_eq_of_perm hnames]
  simp only [hnil]

/-- In another order a listing has the same results, or none at all. -/
theorem results_of_perm (hperm : l'.Perm l) :
    (∃ r, l.results path = .ok r ∧ l'.results path = .ok r) ∨
      ∃ e e', l.results path = .error e ∧ l'.results path = .error e' := by
  by_cases h : ∀ x ∈ l, failure? x = none
  · rw [results_eq_of_perm hperm h]
    rcases l.results path with e | r
    · exact .inr ⟨e, e, rfl, rfl⟩
    · exact .inl ⟨r, rfl, rfl⟩
  · have h' : ¬ ∀ x ∈ l', failure? x = none :=
      fun h' => h fun x hx => h' x (hperm.mem_iff.2 hx)
    obtain ⟨e, he⟩ := @exists_error_of_failure l path h
    obtain ⟨e', he'⟩ := @exists_error_of_failure l' path h'
    exact .inr ⟨e, e', he, he'⟩

/-- Different entries give different names. -/
theorem nodup_names (h : (l.map Prod.fst).Nodup) : (l.filterMap name?).Nodup := by
  refine List.pairwise_filterMap.2 ((List.pairwise_map.1 h).imp ?_)
  intro x y hne name hx name' hy
  obtain ⟨rfl, -⟩ := name?_eq_some_iff.1 hx
  obtain ⟨rfl, -⟩ := name?_eq_some_iff.1 hy
  rintro rfl
  exact hne rfl

theorem mem_names {name : String} : name ∈ l.filterMap name? ↔
    (FileName.text name, .ok .file) ∈ l ∧ (FileName.text name).isHidden = false := by
  rw [List.mem_filterMap]
  constructor
  · rintro ⟨entry, hentry, hname⟩
    obtain ⟨rfl, hhidden⟩ := name?_eq_some_iff.1 hname
    exact ⟨hentry, hhidden⟩
  · rintro ⟨hentry, hhidden⟩
    exact ⟨_, hentry, name?_eq_some_iff.2 ⟨rfl, hhidden⟩⟩

/-! ## Directories -/

/-- What a directory shows when it is discovered is its listing. -/
theorem discover_eq {t : FileTree} {path : String} (h : t.isDir path = true) :
    ∃ dir, t.openRead path = .ok dir ∧ t.discover path = (t.listing path dir).results path := by
  have hopen : ∃ dir, t.openRead path = .ok dir := by
    rcases hlocate : t.locate .target path with fault | spot
    · simp [FileTree.isDir, FileTree.stat, hlocate, bind, Except.bind] at h
    · rcases hpresent : FileTree.present spot with fault | node
      · simp [FileTree.isDir, FileTree.stat, hlocate, hpresent, bind, Except.bind] at h
      · refine ⟨spot.location, ?_⟩
        simp [FileTree.openRead, hlocate, hpresent, bind, Except.bind, pure, Except.pure]
  obtain ⟨dir, hdir⟩ := hopen
  exact ⟨dir, hdir, by rw [FileTree.discover, if_pos h, hdir]⟩

/-- **The results of a listing are its visible files**, in increasing order of their bytes and each
once. There are results exactly if every entry can be looked at, every name of a file is text, some
file is not hidden, and the names of those that are not give results. Another order of the entries
gives the same results, or none as well, and the same failure if no entry has one. -/
theorem results_exact (path : String) {l : Listing} (hl : (l.map Prod.fst).Nodup) :
    (∀ t : FileTree, t.isDir path = true →
      ∃ dir, t.openRead path = .ok dir ∧ t.discover path = (t.listing path dir).results path) ∧
    ((∃ r, l.results path = .ok r) ↔
      (∀ x ∈ l, ∃ kind, x.2 = .ok kind) ∧ (∀ x ∈ l, x.2 = .ok .file → ∃ name, x.1 = .text name) ∧
      (∃ x ∈ l, x.2 = .ok .file ∧ x.1.isHidden = false) ∧
      ∃ r, ofFilenames (l.filterMap name?) = .ok r) ∧
    (∀ r, l.results path = .ok r →
      (r.filenames.Pairwise fun a b => Text.Utf8.encode a < Text.Utf8.encode b) ∧
      (∀ name, name ∈ r.filenames ↔
        (FileName.text name, .ok .file) ∈ l ∧ (FileName.text name).isHidden = false) ∧
      ∀ e ∈ r.entries, ResultName.parse e.filename = .ok (r.label, e.parameters)) ∧
    ∀ l' : Listing, l'.Perm l →
      ((∃ r, l.results path = .ok r ∧ l'.results path = .ok r) ∨
        ∃ e e', l.results path = .error e ∧ l'.results path = .error e') ∧
      ((∀ x ∈ l, ∃ kind, x.2 = .ok kind) → (∀ x ∈ l, x.2 = .ok .file → ∃ name, x.1 = .text name) →
        l'.results path = l.results path) := by
  have hfailure : (∀ x ∈ l, failure? x = none) ↔ (∀ x ∈ l, ∃ kind, x.2 = .ok kind) ∧
      ∀ x ∈ l, x.2 = .ok .file → ∃ name, x.1 = .text name := by
    simp only [failure?_eq_none_iff, forall_and]
  refine ⟨fun _ => discover_eq, ?_, fun r hr => ?_,
    fun l' hperm => ⟨results_of_perm hperm, fun hkinds htexts => ?_⟩⟩
  · rw [exists_results_iff, hfailure, and_assoc]
    refine and_congr_right fun _ => and_congr_right fun htexts => and_congr_left fun _ => ?_
    constructor
    · intro hne
      obtain ⟨name, hname⟩ := List.exists_mem_of_ne_nil _ hne
      obtain ⟨hx, hhidden⟩ := mem_names.1 hname
      exact ⟨_, hx, rfl, hhidden⟩
    · rintro ⟨⟨filename, kind⟩, hx, hfile, hhidden⟩
      obtain ⟨name, hname⟩ := htexts _ hx hfile
      cases hname
      cases hfile
      exact List.ne_nil_of_mem (mem_names.2 ⟨hx, hhidden⟩)
  · obtain ⟨hnone, hnil, -⟩ := exists_results_iff.1 ⟨r, hr⟩
    rw [results_eq hnone, if_neg hnil] at hr
    obtain ⟨hnames, -⟩ := ofFilenames_eq_ok_iff.1 hr
    rw [hnames]
    refine ⟨?_, fun name => by rw [(sortNames_perm _).mem_iff, mem_names], r.parsed⟩
    have hnodup := (sortNames_perm _).nodup_iff.2 (nodup_names hl)
    refine ((pairwise_sortNames _).and hnodup).imp fun {a b} hab => ?_
    obtain ⟨hle, hne⟩ := hab
    rw [Text.Utf8.encode_lt_encode_iff]
    exact Decidable.byContradiction fun hlt => hne (String.le_antisymm hle (String.not_lt.1 hlt))
  · exact results_eq_of_perm hperm (hfailure.2 ⟨hkinds, htexts⟩)

/-- Two results out of order, with a hidden file and a directory whose name is no text. -/
def mixed : Listing :=
  [(.text "b_n=2", .ok .file), (.raw [255], .ok .directory), (.text ".b_n=3", .ok .file),
    (.text "b_n=1", .ok .file)]

/-- The two results are found from either end of the listing, and nothing else is. -/
theorem results_exact_mixed :
    (mixed.map Prod.fst).Nodup ∧
      ∃ r, mixed.results "d" = .ok r ∧ results "d" mixed.reverse = .ok r ∧
        (r.filenames.Pairwise fun a b => Text.Utf8.encode a < Text.Utf8.encode b) ∧
        ∀ name, name ∈ r.filenames ↔ name = "b_n=1" ∨ name = "b_n=2" := by
  have hnodup : (mixed.map Prod.fst).Nodup := by decide
  have hkinds : ∀ x ∈ mixed, ∃ kind, x.2 = .ok kind := by simp [mixed]
  have htexts : ∀ x ∈ mixed, x.2 = .ok .file → ∃ name, x.1 = .text name := by simp [mixed]
  have hnames : mixed.filterMap name? = ["b_n=2", "b_n=1"] := by decide +kernel
  have hparsed : ∃ r, ofFilenames (mixed.filterMap name?) = .ok r := by
    refine exists_ofFilenames_iff.2 ⟨"b", fun name hname => ?_⟩
    rw [hnames] at hname
    obtain rfl | rfl := List.mem_cons.1 hname |>.imp_right List.mem_singleton.1
    · exact ⟨.ofList [("n", .int 2)], rfl⟩
    · exact ⟨.ofList [("n", .int 1)], rfl⟩
  obtain ⟨-, hexists, hall, hperm⟩ := results_exact "d" hnodup
  obtain ⟨r, hr⟩ := hexists.2 ⟨hkinds, htexts,
    ⟨_, List.mem_cons_self, rfl, by decide +kernel⟩, hparsed⟩
  obtain ⟨hsorted, hmem, -⟩ := hall r hr
  refine ⟨hnodup, r, hr, ?_, hsorted, fun name => ?_⟩
  · rw [(hperm _ (List.reverse_perm mixed)).2 hkinds htexts, hr]
  · rw [hmem, ← mem_names, hnames, List.mem_cons, List.mem_singleton, or_comm]

end SweepPlot.Listing
