import SweepPlot.Proofs.Failure.First
import SweepPlot.Proofs.Selection.Positions
import SweepPlot.Variant

/-!
# What result names determine

A set of results is fixed by its file names (`ResultSet.ofFilenames_eq_ok_iff`), and much of it by
which names there are, whatever their order and however often each is given: the label, the axes and
their values, and for each variant the groupings and which of them something matches.

* `ResultSet.exists_ofFilenames_iff` says when file names give a set of results.
* `ResultSet.SameMembers` relates sets with the same results; `sameMembers_of_filenames` gives it
  from the names.
* `ResultSet.mem_axes` and `ResultSet.pairwise_axes` say what the axes of a set are.
-/

namespace SweepPlot

theorem LabelledEntry.ofFilename_eq_ok_iff {filename : String} {e : LabelledEntry} :
    ofFilename filename = .ok e ↔ e.entry.filename = filename := by
  unfold ofFilename
  constructor
  · intro h
    split at h
    · cases h
    · cases h
      rfl
  · rintro rfl
    split
    · rename_i f hf
      rw [e.parsed] at hf
      cases hf
    · rename_i label parameters hp
      obtain ⟨rfl, rfl⟩ := Prod.mk.inj (Except.ok.inj (e.parsed.symm.trans hp))
      rfl

/-- The entries of file names are those that have them. -/
theorem LabelledEntry.mapM_ofFilename_eq_ok_iff {names : List String} {es : List LabelledEntry} :
    names.mapM ofFilename = .ok es ↔ es.map (·.entry.filename) = names := by
  rw [mapM_eq_ok_iff]
  induction names generalizing es with
  | nil => cases es <;> simp
  | cons n names ih =>
    cases es with
    | nil => simp
    | cons e es => simp [ih, ofFilename_eq_ok_iff]

/-- The entry of a file name, with the parameters that the name gives. -/
def Entry.ofFilename (filename : String) : Entry where
  filename := filename
  parameters := match ResultName.parse filename with
    | .ok (_, parameters) => parameters
    | .error _ => .empty

theorem Entry.ofFilename_filename {e : Entry} {label : String}
    (h : ResultName.parse e.filename = .ok (label, e.parameters)) : ofFilename e.filename = e := by
  rw [ofFilename, h]

namespace ResultSet

variable {r r' : ResultSet}

theorem ext (hlabel : r.label = r'.label) (hentries : r.entries = r'.entries) : r = r' := by
  obtain ⟨label, entries, _⟩ := r
  obtain ⟨label', entries', _⟩ := r'
  obtain rfl : label = label' := hlabel
  obtain rfl : entries = entries' := hentries
  rfl

theorem ofLabelled_eq_ok_iff {label : String} {es : List LabelledEntry} :
    ofLabelled label es = .ok r ↔
      (∀ e ∈ es, e.label = label) ∧ r.label = label ∧ r.entries = es.map (·.entry) := by
  unfold ofLabelled
  split
  · rename_i e he
    constructor
    · intro h
      cases h
    · rintro ⟨h, -⟩
      have hne : e.label ≠ label := by simpa using List.find?_some he
      exact absurd (h e (List.mem_of_find?_eq_some he)) hne
  · rename_i hnone
    constructor
    · intro h
      cases h
      exact ⟨by simpa using hnone, rfl, rfl⟩
    · rintro ⟨-, hlabel, hentries⟩
      exact congrArg Except.ok (ext hlabel.symm hentries.symm)

/-- The entries with the label that they share. -/
def labelled (r : ResultSet) : List LabelledEntry :=
  r.entries.attach.map fun (e : { e // e ∈ r.entries }) => ⟨r.label, e.1, r.parsed e.1 e.2⟩

theorem map_entry_labelled (r : ResultSet) : r.labelled.map (·.entry) = r.entries := by
  rw [labelled, List.map_map]
  exact List.attach_map_subtype_val r.entries

theorem label_of_mem_labelled {e : LabelledEntry} (h : e ∈ r.labelled) : e.label = r.label := by
  obtain ⟨x, -, rfl⟩ := List.mem_map.1 h
  rfl

/-- File names give the set of results that has them, and no other; without names the label is
empty. -/
theorem ofFilenames_eq_ok_iff {names : List String} :
    ofFilenames names = .ok r ↔ r.filenames = names ∧ (names = [] → r.label = "") := by
  unfold ofFilenames
  constructor
  · intro h
    rcases hm : names.mapM LabelledEntry.ofFilename with f | es <;> rw [hm] at h
    · cases h
    · have hes := LabelledEntry.mapM_ofFilename_eq_ok_iff.1 hm
      cases es with
      | nil =>
        cases h
        exact ⟨hes, fun _ => rfl⟩
      | cons first rest =>
        obtain ⟨-, -, hentries⟩ := ofLabelled_eq_ok_iff.1 h
        have hnames : r.filenames = names := by
          rw [filenames, hentries, List.map_map, ← hes]
          rfl
        refine ⟨hnames, fun hnil => ?_⟩
        rw [hnil] at hes
        cases hes
  · rintro ⟨hnames, hlabel⟩
    have hm : names.mapM LabelledEntry.ofFilename = .ok r.labelled := by
      refine LabelledEntry.mapM_ofFilename_eq_ok_iff.2 ?_
      rw [← hnames, filenames, ← map_entry_labelled, List.map_map]
      rfl
    rw [hm]
    cases hes : r.labelled with
    | nil =>
      have hentries : r.entries = [] := by rw [← map_entry_labelled, hes, List.map_nil]
      have hnil : names = [] := by rw [← hnames, filenames, hentries, List.map_nil]
      exact congrArg Except.ok (ext (hlabel hnil).symm hentries.symm)
    | cons first rest =>
      have hfirst : first.label = r.label := label_of_mem_labelled (hes ▸ List.mem_cons_self)
      refine ofLabelled_eq_ok_iff.2 ⟨fun e he => ?_, hfirst.symm, ?_⟩
      · rw [hfirst, label_of_mem_labelled (hes ▸ he)]
      · rw [← hes, map_entry_labelled]

/-- File names give a set of results exactly if all of them are result names with one label. -/
theorem exists_ofFilenames_iff {names : List String} :
    (∃ r, ofFilenames names = .ok r) ↔
      ∃ label, ∀ name ∈ names, ∃ p, ResultName.parse name = .ok (label, p) := by
  constructor
  · rintro ⟨r, hr⟩
    obtain ⟨rfl, -⟩ := ofFilenames_eq_ok_iff.1 hr
    refine ⟨r.label, fun name hname => ?_⟩
    obtain ⟨e, he, rfl⟩ := List.mem_map.1 hname
    exact ⟨e.parameters, r.parsed e he⟩
  · rintro ⟨label, hparse⟩
    have hparsed : ∀ e ∈ names.map Entry.ofFilename,
        ResultName.parse e.filename = .ok (label, e.parameters) := by
      intro e he
      obtain ⟨name, hname, rfl⟩ := List.mem_map.1 he
      obtain ⟨p, hp⟩ := hparse name hname
      simp only [Entry.ofFilename, hp]
    have hnames : (names.map Entry.ofFilename).map (·.filename) = names := by
      rw [List.map_map]
      exact List.map_id names
    by_cases hnil : names = []
    · exact ⟨empty, ofFilenames_eq_ok_iff.2 ⟨hnil.symm, fun _ => rfl⟩⟩
    · exact ⟨⟨label, _, hparsed⟩, ofFilenames_eq_ok_iff.2 ⟨hnames, fun h => absurd h hnil⟩⟩

/-- The entries are those of the file names. -/
theorem entries_eq_map (r : ResultSet) : r.entries = r.filenames.map Entry.ofFilename := by
  rw [filenames, List.map_map]
  refine ((List.map_congr_left fun e he => ?_).trans (List.map_id _)).symm
  exact Entry.ofFilename_filename (r.parsed e he)

/-! ## Sets with the same results -/

/-- The sets have the same results, in some order and some number. -/
def SameMembers (r r' : ResultSet) : Prop := ∀ e, e ∈ r.entries ↔ e ∈ r'.entries

/-- Sets with a file name in common have the same label. -/
theorem label_eq_of_filename {name : String} (h : name ∈ r.filenames) (h' : name ∈ r'.filenames) :
    r.label = r'.label := by
  obtain ⟨e, he, rfl⟩ := List.mem_map.1 h
  obtain ⟨e', he', heq⟩ := List.mem_map.1 h'
  have hparse := r'.parsed e' he'
  rw [heq, r.parsed e he] at hparse
  exact (Prod.mk.inj (Except.ok.inj hparse)).1

/-- Results with the same file names have the same label. -/
theorem label_eq_of_filenames {names names' : List String}
    (h : ∀ name, name ∈ names ↔ name ∈ names') (hr : ofFilenames names = .ok r)
    (hr' : ofFilenames names' = .ok r') : r.label = r'.label := by
  obtain ⟨rfl, hlabel⟩ := ofFilenames_eq_ok_iff.1 hr
  obtain ⟨rfl, hlabel'⟩ := ofFilenames_eq_ok_iff.1 hr'
  cases hnames : r.filenames with
  | nil =>
    have hnames' : r'.filenames = [] := by
      rw [List.eq_nil_iff_forall_not_mem]
      intro name hname
      rw [← h, hnames] at hname
      exact List.not_mem_nil hname
    rw [hlabel hnames, hlabel' hnames']
  | cons name names =>
    have hname : name ∈ r.filenames := hnames ▸ List.mem_cons_self
    exact label_eq_of_filename hname ((h name).1 hname)

/-- Sets with the same file names have the same results. -/
theorem sameMembers_of_filenames (h : ∀ name, name ∈ r.filenames ↔ name ∈ r'.filenames) :
    r.SameMembers r' := by
  intro e
  rw [entries_eq_map r, entries_eq_map r', List.mem_map, List.mem_map]
  exact exists_congr fun name => and_congr_left fun _ => h name

theorem mem_axisValues {name : String} {value : Value} :
    value ∈ r.axisValues name ↔ ∃ e ∈ r.entries, e.parameters.get? name = some value := by
  rw [axisValues, ValueSet.mem_ofList, List.mem_filterMap]

theorem SameMembers.axisValues_eq (h : r.SameMembers r') (name : String) :
    r.axisValues name = r'.axisValues name := by
  refine ValueSet.ext_mem fun value => ?_
  rw [mem_axisValues, mem_axisValues]
  exact exists_congr fun e => and_congr_left fun _ => h e

/-! ## Axes -/

/-- After some pairs are added, a name has the values it had and those of its pairs. -/
theorem mem_foldl_addValue {pairs : List (String × Value)} {seen : NameMap ValueSet}
    {name : String} {value : Value} :
    value ∈ ((pairs.foldl addValue seen).get? name).getD ∅ ↔
      value ∈ (seen.get? name).getD ∅ ∨ (name, value) ∈ pairs := by
  induction pairs generalizing seen with
  | nil => simp
  | cons pair pairs ih =>
    obtain ⟨n, v⟩ := pair
    rw [List.foldl_cons, ih, addValue, NameMap.get?_insert, List.mem_cons, Prod.mk.injEq]
    split
    · rename_i heq
      subst heq
      simp [or_assoc, or_comm, or_left_comm]
    · rename_i hne
      simp [hne]

/-- After some pairs are added, the names are those there were and those of the pairs. -/
theorem isSome_foldl_addValue {pairs : List (String × Value)} {seen : NameMap ValueSet}
    {name : String} :
    ((pairs.foldl addValue seen).get? name).isSome ↔
      (seen.get? name).isSome ∨ ∃ value, (name, value) ∈ pairs := by
  induction pairs generalizing seen with
  | nil => simp
  | cons pair pairs ih =>
    obtain ⟨n, v⟩ := pair
    rw [List.foldl_cons, ih, addValue, NameMap.get?_insert]
    split
    · rename_i heq
      subst heq
      simp
    · rename_i hne
      simp [hne]

/-- The parameters of all results, one result after the other. -/
def pairs (r : ResultSet) : List (String × Value) := r.entries.flatMap (·.parameters.toList)

theorem mem_pairs {name : String} {value : Value} :
    (name, value) ∈ r.pairs ↔ ∃ e ∈ r.entries, e.parameters.get? name = some value := by
  simp only [pairs, List.mem_flatMap, Parameters.get?, NameMap.get?_eq_some_iff]
  rfl

theorem axes_eq (r : ResultSet) :
    r.axes = (r.pairs.foldl addValue ∅).toList.map fun b => ⟨b.1, b.2⟩ := by
  rw [axes, pairs, List.foldl_flatMap]

/-- The axes of a set are the names of parameters that it has, with their values. -/
theorem mem_axes {a : Axis} :
    a ∈ r.axes ↔ a.values = r.axisValues a.name ∧
      ∃ e ∈ r.entries, ∃ value, e.parameters.get? a.name = some value := by
  obtain ⟨name, values⟩ := a
  have hget : (⟨name, values⟩ : Axis) ∈ r.axes ↔
      (r.pairs.foldl addValue ∅).get? name = some values := by
    rw [axes_eq, NameMap.get?_eq_some_iff, List.mem_map]
    constructor
    · rintro ⟨b, hb, heq⟩
      cases heq
      exact hb
    · intro hb
      exact ⟨_, hb, rfl⟩
  have hvalues : ((r.pairs.foldl addValue ∅).get? name).getD ∅ = r.axisValues name := by
    refine ValueSet.ext_mem fun value => ?_
    rw [mem_foldl_addValue, mem_pairs, mem_axisValues]
    exact or_iff_right (ValueSet.not_mem_empty value)
  have hsome : ((r.pairs.foldl addValue ∅).get? name).isSome ↔
      ∃ e ∈ r.entries, ∃ value, e.parameters.get? name = some value := by
    rw [isSome_foldl_addValue]
    simp only [mem_pairs]
    constructor
    · rintro (h | ⟨value, e, he, hv⟩)
      · cases h
      · exact ⟨e, he, value, hv⟩
    · rintro ⟨e, he, value, hv⟩
      exact .inr ⟨value, e, he, hv⟩
  rw [hget, ← hsome, ← hvalues]
  cases (r.pairs.foldl addValue ∅).get? name with
  | none => simp
  | some s => simp [eq_comm]

theorem pairwise_axes (r : ResultSet) : r.axes.Pairwise (·.name < ·.name) := by
  rw [axes_eq]
  exact List.pairwise_map.2 (NameMap.sorted _)

theorem SameMembers.axes_eq (h : r.SameMembers r') : r.axes = r'.axes := by
  refine eq_of_pairwise_of_mem_iff (fun _ _ => String.lt_asymm) r.pairwise_axes r'.pairwise_axes
    fun a => ?_
  rw [mem_axes, mem_axes, h.axisValues_eq]
  exact and_congr_right fun _ => exists_congr fun e => and_congr_left fun _ => h e

end ResultSet

/-! ## Groupings -/

namespace Variant

variable {results results' : ResultSet} (v : Variant)

theorem groupings_eq_of_sameMembers (h : results.SameMembers results') :
    v.groupings results = v.groupings results' := by
  have hvalues : ∀ axis : OuterAxis, axis.values results = axis.values results' := by
    intro axis
    cases axis with
    | discovered name => exact congrArg ValueSet.toList (h.axisValues_eq name)
    | listed name values => rfl
  have hexpand : expand results = expand results' := by
    funext gs axis
    rw [expand, expand, hvalues]
  rw [groupings, groupings, hexpand]

/-- Something is selected if a result matches. -/
theorem isEmpty_select_eq_false_iff {c : Constraints} {q : Option Predicate} {o : Order} :
    (!(results.select c q o).isEmpty) = true ↔ ∃ e ∈ results.entries, e.matches c q = true := by
  rw [Bool.not_eq_true', List.isEmpty_eq_false_iff_exists_mem]
  simp only [ResultSet.mem_select]

theorem matchesAny_eq_of_sameMembers (h : results.SameMembers results') :
    v.matchesAny results = v.matchesAny results' := by
  have hselect : ∀ c q o, (!(results.select c q o).isEmpty) = !(results'.select c q o).isEmpty := by
    intro c q o
    rw [Bool.eq_iff_iff, isEmpty_select_eq_false_iff, isEmpty_select_eq_false_iff]
    exact exists_congr fun e => and_congr_left fun _ => h e
  funext g
  unfold matchesAny
  split
  · exact hselect ..
  · simp only [hselect]

end Variant

end SweepPlot
