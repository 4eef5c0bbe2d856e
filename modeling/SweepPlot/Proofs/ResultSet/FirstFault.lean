import SweepPlot.Proofs.ResultSet.Members

/-!
# Why file names give no results

File names are read one after the other, and only then are their labels compared. A name that is not
accepted is therefore reported before a label that differs, wherever the two stand
(`ofFilenames_outcome`).

* `ResultName.labelOf` is the label of a single file name.
* `ofFilenames_of_rejected` is about a name that is not accepted. If there is none, the names are
  those of labelled entries (`accepted_or_rejected`), for which `ofFilenames_eq` says how the labels
  are compared and `ofLabelled_eq_error_iff` which one is reported.
-/

namespace SweepPlot

/-- The label that a file name gives. -/
def ResultName.labelOf (filename : String) : Except Failure String := (parse filename).map Prod.fst

theorem LabelledEntry.labelOf_filename (e : LabelledEntry) :
    ResultName.labelOf e.entry.filename = .ok e.label := by
  rw [ResultName.labelOf, e.parsed]
  rfl

theorem LabelledEntry.ofFilename_eq_error_iff {filename : String} {f : Failure} :
    ofFilename filename = .error f ↔ ResultName.parse filename = .error f := by
  cases hparse : ResultName.parse filename with
  | error e =>
    have hfile : ofFilename filename = .error e := by
      unfold ofFilename
      split
      · rename_i e' he'
        rw [hparse] at he'
        cases he'
        rfl
      · rename_i label p hp
        rw [hparse] at hp
        cases hp
    rw [hfile, Except.error.injEq, Except.error.injEq]
  | ok r =>
    obtain ⟨label, p⟩ := r
    have hfile : ofFilename filename = .ok ⟨label, ⟨filename, p⟩, hparse⟩ :=
      ofFilename_eq_ok_iff.2 rfl
    rw [hfile]
    exact ⟨fun h => (nomatch h), fun h => (nomatch h)⟩

namespace ResultSet

variable {names : List String} {es : List LabelledEntry} {e : Failure}

/-- The first file name that is not accepted is reported. -/
theorem ofFilenames_of_rejected {before after : List String} {name : String}
    (hbefore : ∀ n ∈ before, ∃ r, ResultName.parse n = .ok r)
    (hname : ResultName.parse name = .error e) :
    ofFilenames (before ++ name :: after) = .error e := by
  have hmapM : (before ++ name :: after).mapM LabelledEntry.ofFilename = .error e := by
    refine mapM_eq_error_iff.2 ⟨before, name, after, rfl, fun n hn => ?_, ?_⟩
    · obtain ⟨⟨label, p⟩, hp⟩ := hbefore n hn
      exact ⟨⟨label, ⟨n, p⟩, hp⟩, LabelledEntry.ofFilename_eq_ok_iff.2 rfl⟩
    · exact LabelledEntry.ofFilename_eq_error_iff.2 hname
  rw [ofFilenames, hmapM]
  rfl

/-- All file names are accepted, or one of them is the first that is not. -/
theorem accepted_or_rejected (names : List String) :
    (∃ es : List LabelledEntry, es.map (·.entry.filename) = names) ∨
      ∃ before name after e, names = before ++ name :: after ∧
        (∀ n ∈ before, ∃ r, ResultName.parse n = .ok r) ∧ ResultName.parse name = .error e := by
  cases hmapM : names.mapM LabelledEntry.ofFilename with
  | ok es => exact .inl ⟨es, LabelledEntry.mapM_ofFilename_eq_ok_iff.1 hmapM⟩
  | error e =>
    obtain ⟨before, name, after, hnames, hbefore, hname⟩ := mapM_eq_error_iff.1 hmapM
    refine .inr ⟨before, name, after, e, hnames, fun n hn => ?_,
      LabelledEntry.ofFilename_eq_error_iff.1 hname⟩
    obtain ⟨x, hx⟩ := hbefore n hn
    have hfile := LabelledEntry.ofFilename_eq_ok_iff.1 hx
    exact ⟨_, hfile ▸ x.parsed⟩

/-- The labels of accepted file names are compared with the first. -/
theorem ofFilenames_eq (first : LabelledEntry) (rest : List LabelledEntry) :
    ofFilenames ((first :: rest).map (·.entry.filename)) =
      ofLabelled first.label (first :: rest) := by
  have hmapM := LabelledEntry.mapM_ofFilename_eq_ok_iff.2
    (Eq.refl ((first :: rest).map (·.entry.filename)))
  rw [ofFilenames, hmapM]
  rfl

/-- The first entry with another label is reported. -/
theorem ofLabelled_eq_error_iff {label : String} :
    ofLabelled label es = .error e ↔ ∃ before x after, es = before ++ x :: after ∧
      (∀ y ∈ before, y.label = label) ∧ x.label ≠ label ∧
        e = .inconsistentLabel x.entry.filename label x.label := by
  have hfind : ∀ x, es.find? (fun y => y.label != label) = some x ↔ ∃ before after,
      es = before ++ x :: after ∧ (∀ y ∈ before, y.label = label) ∧ x.label ≠ label := by
    intro x
    rw [List.find?_eq_some_iff_append]
    simp only [bne_iff_ne, ne_eq, Bool.not_eq_true', bne_eq_false_iff_eq]
    exact ⟨fun ⟨hx, before, after, hes, hbefore⟩ => ⟨before, after, hes, hbefore, hx⟩,
      fun ⟨before, after, hes, hbefore, hx⟩ => ⟨hx, before, after, hes, hbefore⟩⟩
  unfold ofLabelled
  split
  · rename_i x hx
    constructor
    · intro h
      cases h
      obtain ⟨before, after, hes, hbefore, hne⟩ := (hfind x).1 hx
      exact ⟨before, x, after, hes, hbefore, hne, rfl⟩
    · rintro ⟨before, y, after, hes, hbefore, hne, rfl⟩
      have hy := (hfind y).2 ⟨before, after, hes, hbefore, hne⟩
      obtain rfl := Option.some.inj (hx.symm.trans hy)
      rfl
  · rename_i hnone
    constructor
    · intro h
      cases h
    · rintro ⟨before, y, after, hes, hbefore, hne, -⟩
      rw [(hfind y).2 ⟨before, after, hes, hbefore, hne⟩] at hnone
      cases hnone

/-- File names have a first one whose label differs if their entries do. -/
theorem exists_differing_iff {expected found name : String} :
    (∃ before x after, es = before ++ x :: after ∧ (∀ y ∈ before, y.label = expected) ∧
        x.entry.filename = name ∧ x.label = found) ↔
      ∃ before after, es.map (·.entry.filename) = before ++ name :: after ∧
        (∀ n ∈ before, ResultName.labelOf n = .ok expected) ∧
          ResultName.labelOf name = .ok found := by
  constructor
  · rintro ⟨before, x, after, rfl, hbefore, rfl, rfl⟩
    refine ⟨before.map (·.entry.filename), after.map (·.entry.filename), by simp, fun n hn => ?_,
      x.labelOf_filename⟩
    obtain ⟨y, hy, rfl⟩ := List.mem_map.1 hn
    rw [y.labelOf_filename, hbefore y hy]
  · rintro ⟨before, after, hes, hbefore, hname⟩
    obtain ⟨before', rest, rfl, rfl, hrest⟩ := List.map_eq_append_iff.1 hes
    obtain ⟨x, after', rfl, rfl, -⟩ := List.map_eq_cons_iff.1 hrest
    refine ⟨before', x, after', rfl, fun y hy => ?_, rfl, ?_⟩
    · have := hbefore _ (List.mem_map_of_mem hy)
      rw [y.labelOf_filename] at this
      exact Except.ok.inj this
    · rw [x.labelOf_filename] at hname
      exact Except.ok.inj hname

/-- Of accepted file names the first with another label than the first one is reported. -/
theorem ofFilenames_map_eq_error_iff :
    ofFilenames (es.map (·.entry.filename)) = .error e ↔
      ∃ first before name after expected found,
        (es.map (·.entry.filename)).head? = some first ∧
          ResultName.labelOf first = .ok expected ∧
          es.map (·.entry.filename) = before ++ name :: after ∧
          (∀ n ∈ before, ResultName.labelOf n = .ok expected) ∧
          ResultName.labelOf name = .ok found ∧ found ≠ expected ∧
            e = .inconsistentLabel name expected found := by
  cases es with
  | nil =>
    constructor
    · intro h
      cases h
    · rintro ⟨first, before, name, after, expected, found, hfirst, -⟩
      cases hfirst
  | cons first rest =>
    rw [ofFilenames_eq, ofLabelled_eq_error_iff]
    constructor
    · rintro ⟨before, x, after, hes, hbefore, hne, rfl⟩
      obtain ⟨before', after', hnames, hbefore', hname⟩ :=
        exists_differing_iff.1 ⟨before, x, after, hes, hbefore, rfl, rfl⟩
      exact ⟨_, before', _, after', first.label, x.label, rfl, first.labelOf_filename, hnames,
        hbefore', hname, hne, rfl⟩
    · rintro ⟨_, before, name, after, expected, found, hfirst, hexpected, hnames, hbefore, hname,
        hne, rfl⟩
      cases hfirst
      obtain rfl := Except.ok.inj (first.labelOf_filename.symm.trans hexpected)
      obtain ⟨before', x, after', hes, hbefore', rfl, rfl⟩ :=
        exists_differing_iff.2 ⟨before, after, hnames, hbefore, hname⟩
      exact ⟨before', x, after', hes, hbefore', hne, rfl⟩

/-- There are results if all file names have the label of the first one. -/
theorem exists_ofFilenames_iff_head? :
    (∃ r, ofFilenames names = .ok r) ↔ (∀ name ∈ names, ∃ x, ResultName.parse name = .ok x) ∧
      ∀ first ∈ names.head?, ∀ name ∈ names,
        ResultName.labelOf name = ResultName.labelOf first := by
  rw [exists_ofFilenames_iff]
  constructor
  · rintro ⟨label, hparse⟩
    have hlabel : ∀ name ∈ names, ResultName.labelOf name = .ok label := by
      intro name hname
      obtain ⟨p, hp⟩ := hparse name hname
      rw [ResultName.labelOf, hp]
      rfl
    refine ⟨fun name hname => ?_, fun first hfirst name hname => ?_⟩
    · obtain ⟨p, hp⟩ := hparse name hname
      exact ⟨_, hp⟩
    · rw [hlabel name hname, hlabel first (List.mem_of_mem_head? hfirst)]
  · rintro ⟨hparse, hlabel⟩
    cases names with
    | nil => exact ⟨"", by simp⟩
    | cons first rest =>
      obtain ⟨⟨label, p⟩, hfirst⟩ := hparse first List.mem_cons_self
      refine ⟨label, fun name hname => ?_⟩
      obtain ⟨⟨label', p'⟩, hp'⟩ := hparse name hname
      have hsame := hlabel first rfl name hname
      rw [ResultName.labelOf, ResultName.labelOf, hp', hfirst] at hsame
      cases hsame
      exact ⟨p', hp'⟩

/-- **The results of file names, or why there are none.** There are results exactly if all names are
accepted and have the label of the first one; then each name has an entry with its parameters, in
the order of the names, and the set has the label, which is empty if there are no names. A name that
is not accepted is reported first, and the first of these if there are several; if all are accepted,
the first name with another label is. -/
theorem ofFilenames_outcome (names : List String) :
    ((∃ r, ofFilenames names = .ok r) ↔ (∀ name ∈ names, ∃ x, ResultName.parse name = .ok x) ∧
      ∀ first ∈ names.head?, ∀ name ∈ names,
        ResultName.labelOf name = ResultName.labelOf first) ∧
    (∀ r, ofFilenames names = .ok r ↔ r.filenames = names ∧ (names = [] → r.label = "") ∧
      names.map ResultName.parse = r.entries.map fun e => .ok (r.label, e.parameters)) ∧
    ∀ e, ofFilenames names = .error e ↔
      (∃ before name after, names = before ++ name :: after ∧
        (∀ n ∈ before, ∃ x, ResultName.parse n = .ok x) ∧ ResultName.parse name = .error e) ∨
      (∀ name ∈ names, ∃ x, ResultName.parse name = .ok x) ∧
        ∃ first before name after expected found, names.head? = some first ∧
          ResultName.labelOf first = .ok expected ∧ names = before ++ name :: after ∧
          (∀ n ∈ before, ResultName.labelOf n = .ok expected) ∧
          ResultName.labelOf name = .ok found ∧ found ≠ expected ∧
            e = .inconsistentLabel name expected found := by
  refine ⟨exists_ofFilenames_iff_head?, fun r => ?_, fun e => ?_⟩
  · rw [ofFilenames_eq_ok_iff]
    refine and_congr_right fun hnames => (and_iff_left ?_).symm
    rw [← hnames, filenames, List.map_map]
    exact List.map_congr_left r.parsed
  · rcases accepted_or_rejected names with
      ⟨es, rfl⟩ | ⟨before, name, after, e', hnames, hbefore, he⟩
    · have haccepted : ∀ name ∈ es.map (·.entry.filename), ∃ x, ResultName.parse name = .ok x := by
        intro name hname
        obtain ⟨x, -, rfl⟩ := List.mem_map.1 hname
        exact ⟨_, x.parsed⟩
      rw [ofFilenames_map_eq_error_iff]
      constructor
      · exact fun h => .inr ⟨haccepted, h⟩
      · rintro (⟨before, name, after, hnames, -, hname⟩ | ⟨-, h⟩)
        · obtain ⟨x, hx⟩ := haccepted name (hnames ▸ by simp)
          cases hx.symm.trans hname
        · exact h
    · constructor
      · intro h
        rw [hnames, ofFilenames_of_rejected hbefore he] at h
        cases h
        exact .inl ⟨before, name, after, hnames, hbefore, he⟩
      · rintro (⟨before', name', after', hnames', hbefore', he'⟩ | ⟨haccepted, -⟩)
        · rw [hnames', ofFilenames_of_rejected hbefore' he']
        · obtain ⟨x, hx⟩ := haccepted name (hnames ▸ by simp)
          cases hx.symm.trans he

/-- A name that is not accepted is reported before a label that differs in front of it. -/
example : ofFilenames ["x_w=1", "y_w=1", "x_w"] = .error (.malformedSegment "x_w" "w") :=
  rfl

end ResultSet

end SweepPlot
