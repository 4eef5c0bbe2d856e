import SweepPlot.Proofs.Extraction.Rows
import SweepPlot.Proofs.Run.Steps

/-!
# The data files of a grouping

All data files of a run stand in one scratch directory, and a file may have been written before.
`HasRowsOf` says that a data file has the rows of certain results and no others, whatever it held
before.

* `WritesFile` says of steps that they write one data file; the steps for a result and those for a
  group do (`writesFile_takeRows`, `writesFile_createFile`).
* `performAll_files_last` puts such steps together: in the end each file holds the rows that were
  written to it last. If files with one name have the same results, these are its rows
  (`performAll_files`).
-/

namespace SweepPlot.Plotter

open FileTree Extraction RunM

variable {t₀ t t' : FileTree} {dir x : String} {loc : Location}

/-! ## One file -/

variable (p : Plotter) (tag : String)

/-- The data file `x` holds the rows of the results and nothing else, and the results can be
read. -/
structure HasRowsOf (dir : String) (loc : Location) (x : String) (es : List Entry) (t : FileTree) :
    Prop where
  reachable : Reachable dir x
  readable : ∀ e ∈ es, ∃ content, t.read (p.source e) = .ok content
  rows : ∃ data, t.lookup (loc ++ [.text x]) = some (.file data) ∧
    ∀ content : Entry → Bytes, (∀ e ∈ es, t.ReadsOutside loc (p.source e) (content e)) →
      data = es.flatMap fun e => plotData tag (content e)

namespace HasRowsOf

variable {p tag} {es : List Entry} {S : Location → Prop}

/-- A data file stays as it is when others are written. -/
theorem grows (h : HasRowsOf p tag dir loc x es t) (ht : Grows S t t') (hS : ∀ k, S k → loc <+: k)
    (hx : ¬ S (loc ++ [.text x])) : HasRowsOf p tag dir loc x es t' where
  reachable := h.reachable
  readable e he := by
    obtain ⟨content, hc⟩ := h.readable e he
    exact ht.read hc
  rows := by
    obtain ⟨data, hl, hdata⟩ := h.rows
    refine ⟨data, ht.lookup_eq hl hx, fun content hc => hdata content fun e he => ?_⟩
    obtain ⟨content', hr⟩ := h.readable e he
    exact (hc e he).of_grows ht hS hr

/-- What the data file reads in the end. -/
theorem read (h : HasRowsOf p tag dir loc x es t) (hs : Scratch t₀ dir loc t)
    (content : Entry → Bytes) (hc : ∀ e ∈ es, t.ReadsOutside loc (p.source e) (content e)) :
    t.read (Path.join dir x) = .ok (es.flatMap fun e => plotData tag (content e)) := by
  obtain ⟨data, hl, hdata⟩ := h.rows
  rw [hs.read_eq h.reachable hl, hdata content hc]

end HasRowsOf

theorem prefix_of_eq_child (k : Location) (hk : k = loc ++ [.text x]) : loc <+: k :=
  hk ▸ List.prefix_append ..

/-! ## Steps that write one file -/

/-- The steps write the data file `x` with the rows of the results, and no other file. -/
def WritesFile (t₀ : FileTree) (dir : String) (loc : Location) (x : String) (es : List Entry)
    (steps : List Step) : Prop :=
  ∀ s s', Scratch t₀ dir loc s.tree → p.performAll steps s = (.ok (), s') →
    Scratch t₀ dir loc s'.tree ∧ Grows (· = loc ++ [.text x]) s.tree s'.tree ∧
      HasRowsOf p tag dir loc x es s'.tree

variable {p tag} {s s' : RunState}

theorem takeRows_ok {mode : WriteMode} {dataFile : String} {e : Entry}
    (h : p.takeRows tag mode dataFile e s = (.ok (), s')) :
    ∃ n, p.extract (p.source e) tag dataFile mode s.tree = (.ok n, s'.tree) := by
  rw [takeRows_apply] at h
  obtain ⟨n, s₁, hextract, h⟩ := bind_ok h
  have hextract := changing_ok hextract
  cases h
  exact ⟨n, hextract⟩

theorem createFile_ok {path : String} (h : createFile path s = (.ok (), s')) :
    ∃ k, s.tree.openWrite true path = .ok (k, s'.tree) := by
  have h := changing_ok h
  rcases ho : s.tree.openWrite true path with e | ⟨k, t⟩ <;> simp only [ho] at h
  · cases h
  · cases h
    exact ⟨k, rfl⟩

/-- Rows of one more result are added to a data file, or taken into an empty one. -/
theorem takeRows_fills (hp : p.extract = Extraction.extract) {mode : WriteMode} {e : Entry}
    (hs : Scratch t₀ dir loc s.tree) (hx : IsName x)
    (h : p.takeRows tag mode (Path.join dir x) e s = (.ok (), s')) :
    Scratch t₀ dir loc s'.tree ∧ Grows (· = loc ++ [.text x]) s.tree s'.tree ∧
      (mode = .truncate → HasRowsOf p tag dir loc x [e] s'.tree) ∧
      ∀ es, mode = .append → HasRowsOf p tag dir loc x es s.tree →
        HasRowsOf p tag dir loc x (es ++ [e]) s'.tree := by
  obtain ⟨n, h⟩ := takeRows_ok h
  rw [hp] at h
  obtain ⟨hreach, hs', hgrows, start, added, origin, content, hl, htrunc, happ, hopen, hread,
    hadded⟩ := extract_fills hs hx h
  have hrow : ∀ c, s'.tree.ReadsOutside loc (p.source e) c → added = plotData tag c := by
    rintro c ⟨k, hk, hout, hc⟩
    rw [hopen] at hk
    cases hk
    rw [hread] at hc
    cases hc
    exact hadded hout
  have hreadable : ∃ c, s'.tree.read (p.source e) = .ok c :=
    ⟨content, read_eq_ok_iff.2 ⟨origin, hopen, hread⟩⟩
  refine ⟨hs', hgrows, fun hm => ⟨hreach, ?_, start ++ added, hl, ?_⟩,
    fun es hm hes => ⟨hreach, ?_, start ++ added, hl, ?_⟩⟩
  · simpa using hreadable
  · intro c hc
    rw [htrunc hm, hrow (c e) (hc e List.mem_cons_self)]
    simp
  · intro e' he'
    rcases List.mem_append.1 he' with he' | he'
    · obtain ⟨c, hc⟩ := hes.readable e' he'
      exact hgrows.read hc
    · cases List.mem_singleton.1 he'
      exact hreadable
  · intro c hc
    obtain ⟨data, hdata, hrows⟩ := hes.rows
    have hstart : start = es.flatMap fun e => plotData tag (c e) := by
      rw [happ data hdata hm]
      refine hrows c fun e' he' => ?_
      obtain ⟨c', hr⟩ := hes.readable e' he'
      exact (hc e' (List.mem_append_left _ he')).of_grows hgrows prefix_of_eq_child hr
    rw [hstart, hrow (c e) (hc e (by simp))]
    simp

/-- The step for a result writes its data file. -/
theorem writesFile_takeRows (hp : p.extract = Extraction.extract) (hx : IsName x) (e : Entry) :
    WritesFile p tag t₀ dir loc x [e] [.takeRows tag .truncate (Path.join dir x) e] := by
  intro s s' hs h
  rw [performAll_singleton] at h
  obtain ⟨hs', hgrows, hholds, -⟩ := takeRows_fills hp hs hx h
  exact ⟨hs', hgrows, hholds rfl⟩

theorem performAll_takeRows (hp : p.extract = Extraction.extract) (hx : IsName x)
    (es : List Entry) {done : List Entry} (hs : Scratch t₀ dir loc s.tree)
    (hd : HasRowsOf p tag dir loc x done s.tree)
    (h : p.performAll (es.map (.takeRows tag .append (Path.join dir x))) s = (.ok (), s')) :
    Scratch t₀ dir loc s'.tree ∧ Grows (· = loc ++ [.text x]) s.tree s'.tree ∧
      HasRowsOf p tag dir loc x (done ++ es) s'.tree := by
  induction es generalizing s done with
  | nil =>
    cases h
    exact ⟨hs, .refl _ _, by rwa [List.append_nil]⟩
  | cons e es ih =>
    obtain ⟨s₁, h₁, h⟩ := p.performAll_cons_ok h
    obtain ⟨hs₁, hgrows₁, -, hholds⟩ := takeRows_fills hp hs hx h₁
    obtain ⟨hs', hgrows, hholds'⟩ := ih hs₁ (hholds done rfl hd) h
    exact ⟨hs', hgrows₁.trans hgrows, by rwa [List.append_assoc] at hholds'⟩

/-- The steps for a group write its data file. -/
theorem writesFile_createFile (hp : p.extract = Extraction.extract) (hx : IsName x)
    (es : List Entry) :
    WritesFile p tag t₀ dir loc x es
      (.createFile (Path.join dir x) :: es.map (.takeRows tag .append (Path.join dir x))) := by
  intro s s' hs h
  obtain ⟨s₁, h₁, h⟩ := p.performAll_cons_ok h
  obtain ⟨k, ho⟩ := createFile_ok h₁
  obtain ⟨rfl, hreach, hs₁, hgrows₁, start, hl, hempty, -⟩ := hs.openWrite_fills hx ho
  have hd : HasRowsOf p tag dir loc x [] s₁.tree :=
    ⟨hreach, by simp, start, hl, fun _ _ => by simp [hempty rfl]⟩
  obtain ⟨hs', hgrows, hholds⟩ := performAll_takeRows hp hx es hs₁ hd h
  exact ⟨hs', hgrows₁.trans hgrows, hholds⟩

/-! ## Steps that write several files -/

variable {ι : Type} (file : ι → String) (entries : ι → List Entry) {steps : ι → List Step}
  {items : List ι}

theorem performAll_files_grows
    (hw : ∀ i ∈ items, WritesFile p tag t₀ dir loc (file i) (entries i) (steps i))
    (hs : Scratch t₀ dir loc s.tree)
    (h : p.performAll (items.flatMap steps) s = (.ok (), s')) :
    Scratch t₀ dir loc s'.tree ∧
      Grows (fun k => ∃ i ∈ items, k = loc ++ [.text (file i)]) s.tree s'.tree := by
  induction items generalizing s with
  | nil =>
    cases h
    exact ⟨hs, .refl _ _⟩
  | cons j items ih =>
    rw [List.forall_mem_cons] at hw
    rw [List.flatMap_cons] at h
    obtain ⟨s₁, h₁, h⟩ := p.performAll_append_ok h
    obtain ⟨hs₁, hgrows₁, -⟩ := hw.1 s s₁ hs h₁
    obtain ⟨hs', hgrows⟩ := ih hw.2 hs₁ h
    refine ⟨hs', (hgrows₁.mono fun k hk => ?_).trans (hgrows.mono fun k hk => ?_)⟩
    · exact ⟨j, List.mem_cons_self, hk⟩
    · obtain ⟨i, hi, hk⟩ := hk
      exact ⟨i, List.mem_cons_of_mem _ hi, hk⟩

/-- After steps that each write a file, a file holds the rows that were written to it last. -/
theorem performAll_files_last {before after : List ι} {j : ι}
    (hw : ∀ i ∈ before ++ j :: after,
      WritesFile p tag t₀ dir loc (file i) (entries i) (steps i))
    (hlast : ∀ i ∈ after, file i ≠ file j) (hs : Scratch t₀ dir loc s.tree)
    (h : p.performAll ((before ++ j :: after).flatMap steps) s = (.ok (), s')) :
    HasRowsOf p tag dir loc (file j) (entries j) s'.tree := by
  rw [List.forall_mem_append, List.forall_mem_cons] at hw
  rw [List.flatMap_append, List.flatMap_cons] at h
  obtain ⟨hbefore, hj, hafter⟩ := hw
  obtain ⟨s₁, h₁, h⟩ := p.performAll_append_ok h
  obtain ⟨s₂, h₂, h⟩ := p.performAll_append_ok h
  obtain ⟨hs₁, -⟩ := performAll_files_grows file entries hbefore hs h₁
  obtain ⟨hs₂, -, hholds⟩ := hj s₁ s₂ hs₁ h₂
  obtain ⟨-, hgrows⟩ := performAll_files_grows file entries hafter hs₂ h
  refine hholds.grows hgrows ?_ ?_
  · rintro k ⟨i, -, rfl⟩
    exact List.prefix_append ..
  · rintro ⟨i, hi, hk⟩
    exact hlast i hi (by simpa using hk.symm)

/-- Among the members of a list with a property there is a last one. -/
theorem exists_last_of_mem {P : ι → Prop} {i : ι} (hi : i ∈ items) (hP : P i) :
    ∃ before j after, items = before ++ j :: after ∧ P j ∧ ∀ k ∈ after, ¬ P k := by
  induction items generalizing i with
  | nil => cases hi
  | cons a items ih =>
    by_cases hlater : ∃ k ∈ items, P k
    · obtain ⟨k, hk, hPk⟩ := hlater
      obtain ⟨before, j, after, rfl, hj, hafter⟩ := ih hk hPk
      exact ⟨a :: before, j, after, rfl, hj, hafter⟩
    · rcases List.mem_cons.1 hi with rfl | hi
      · exact ⟨[], i, items, rfl, hP, fun k hk hPk => hlater ⟨k, hk, hPk⟩⟩
      · exact absurd ⟨i, hi, hP⟩ hlater

/-- After steps that each write a file, all these files hold their rows. -/
theorem performAll_files
    (hw : ∀ i ∈ items, WritesFile p tag t₀ dir loc (file i) (entries i) (steps i))
    (heq : ∀ i ∈ items, ∀ j ∈ items, file i = file j → entries i = entries j)
    (hs : Scratch t₀ dir loc s.tree)
    (h : p.performAll (items.flatMap steps) s = (.ok (), s')) :
    Scratch t₀ dir loc s'.tree ∧ Grows (loc <+: ·) s.tree s'.tree ∧
      ∀ i ∈ items, HasRowsOf p tag dir loc (file i) (entries i) s'.tree := by
  obtain ⟨hs', hgrows⟩ := performAll_files_grows file entries hw hs h
  refine ⟨hs', hgrows.mono ?_, fun i hi => ?_⟩
  · rintro k ⟨i, -, rfl⟩
    exact List.prefix_append ..
  · -- the file may have been written again later, but with the same rows
    obtain ⟨before, j, after, rfl, hij, hlast⟩ :=
      exists_last_of_mem (P := fun j => file i = file j) hi rfl
    rw [hij, heq i hi j (List.mem_append_right _ List.mem_cons_self) hij]
    exact performAll_files_last file entries hw (fun k hk hkj => hlast k hk (hij.trans hkj.symm))
      hs h

end SweepPlot.Plotter
