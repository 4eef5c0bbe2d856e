import SweepPlot.Proofs.Extraction.Outcome
import SweepPlot.Proofs.FileTree.Footprint
import SweepPlot.Proofs.Run.Frame

/-!
# Two runs side by side

Two runs that differ in their scratch directories write the same data files.

* `SameEnd R` says that two activities have the same result and, if they succeed, leave files in the
  relation `R`; `performAll_append_sameEnd` and `performAll_flatMap_sameEnd` put such activities
  together.
* `Alongside` is the relation: the scratch directories hold the same, and all that the results
  depend on is as at the start. Steps that write data files keep it (`dataSteps_sameEnd`).
-/

namespace SweepPlot.Plotter

open RunM FileTree Extraction

variable {α β : Type}

/-! ## Ending in the same way -/

/-- Two activities end with the same result, and with related files if they succeed. -/
structure SameEnd (R : FileTree → FileTree → Prop) (r r' : Except Failure α × RunState) :
    Prop where
  result : r.1 = r'.1
  related : ∀ a, r.1 = .ok a → R r.2.tree r'.2.tree

variable {p : Plotter} {R : FileTree → FileTree → Prop} {s s' : RunState}

theorem SameEnd.of_ok {s₁ s₁' : RunState} {a : α} (h : R s₁.tree s₁'.tree) :
    SameEnd R ((.ok a, s₁) : Except Failure α × RunState) (.ok a, s₁') :=
  ⟨rfl, fun _ _ => h⟩

theorem SameEnd.of_error {s₁ s₁' : RunState} (e : Failure) :
    SameEnd R ((.error e, s₁) : Except Failure α × RunState) (.error e, s₁') :=
  ⟨rfl, fun _ h => nomatch h⟩

/-- Activities that go on alike after activities that end in the same way do so too. -/
theorem SameEnd.bind {x x' : RunM α} {f f' : α → RunM β} (h : SameEnd R (x s) (x' s'))
    (hf : ∀ a s₁ s₁', x s = (.ok a, s₁) → x' s' = (.ok a, s₁') → R s₁.tree s₁'.tree →
      SameEnd R (f a s₁) (f' a s₁')) : SameEnd R ((x >>= f) s) ((x' >>= f') s') := by
  obtain ⟨hresult, hrelated⟩ := h
  rw [bind_apply, bind_apply]
  rcases hx : x s with ⟨e | a, s₁⟩ <;> rcases hx' : x' s' with ⟨e' | a', s₁'⟩ <;>
    rw [hx, hx'] at hresult <;> cases hresult
  · exact .of_error e
  · refine hf a s₁ s₁' hx hx' ?_
    have h := hrelated a (by rw [hx])
    rwa [hx, hx'] at h

theorem performAll_append_sameEnd {a a' b b' : List Step}
    (h : SameEnd R (p.performAll a s) (p.performAll a' s'))
    (hb : ∀ s₁ s₁', p.performAll a s = (.ok (), s₁) → R s₁.tree s₁'.tree →
      SameEnd R (p.performAll b s₁) (p.performAll b' s₁')) :
    SameEnd R (p.performAll (a ++ b) s) (p.performAll (a' ++ b') s') := by
  rw [performAll_append, performAll_append]
  exact h.bind fun _ s₁ s₁' h₁ _ => hb s₁ s₁' h₁

/-- Blocks of steps that end in the same way, one after the other. When the blocks for `x` are
performed, those for what comes before `x` have been. -/
theorem performAll_flatMap_sameEnd {ι : Type} {f f' : ι → List Step} {l : List ι}
    (hstep : ∀ earlier x later, l = earlier ++ x :: later → ∀ s₁ s₁',
      p.performAll (earlier.flatMap f) s = (.ok (), s₁) → R s₁.tree s₁'.tree →
      SameEnd R (p.performAll (f x) s₁) (p.performAll (f' x) s₁'))
    (h : R s.tree s'.tree) :
    SameEnd R (p.performAll (l.flatMap f) s) (p.performAll (l.flatMap f') s') := by
  induction l generalizing s s' with
  | nil => exact .of_ok h
  | cons x rest ih =>
    rw [List.flatMap_cons, List.flatMap_cons]
    refine performAll_append_sameEnd (hstep [] x rest rfl s s' rfl h) fun s₁ s₁' h₁ hR => ?_
    refine ih (fun earlier y later heq s₂ s₂' h₂ => ?_) hR
    refine hstep (x :: earlier) y later (by rw [heq, List.cons_append]) s₂ s₂' ?_
    rw [List.flatMap_cons, p.performAll_append_apply h₁]
    exact h₂

theorem changing_sameEnd {op op' : FileTree → Except Failure α × FileTree}
    (hresult : (op s.tree).1 = (op' s'.tree).1)
    (hrelated : ∀ a, (op s.tree).1 = .ok a → R (op s.tree).2 (op' s'.tree).2) :
    SameEnd R (changing op s) (changing op' s') where
  result := by rw [changing_result, changing_result, hresult]
  related a ha := by
    rw [changing_result] at ha
    rw [changing_tree, changing_tree]
    exact hrelated a ha

/-! ## Files side by side -/

variable (p) (results : ResultSet) in
/-- The files in two runs that started with the same ones: both scratch directories hold the same,
and all that the results depend on stands outside of them and is as at the start. -/
structure Alongside (t₀ : FileTree) (dir : String) (loc : Location) (dir' : String)
    (loc' : Location) (t t' : FileTree) : Prop where
  dirs : Interchangeable dir dir'
  flat : Flat t₀ dir loc t
  flat' : Flat t₀ dir' loc' t'
  same : ∀ x, t.lookup (loc ++ [x]) = t'.lookup (loc' ++ [x])
  results : ∀ e ∈ results.entries, ∀ k ∈ t₀.footprint (p.source e),
    (¬ loc <+: k ∧ t.lookup k = t₀.lookup k) ∧ ¬ loc' <+: k ∧ t'.lookup k = t₀.lookup k

variable {results : ResultSet} {t₀ t t' u u' : FileTree} {dir dir' a : String}
  {loc loc' : Location} {e : Entry}

namespace Alongside

theorem openRead (h : Alongside p results t₀ dir loc dir' loc' t t') (he : e ∈ results.entries) :
    t.openRead (p.source e) = t₀.openRead (p.source e) ∧
      t'.openRead (p.source e) = t₀.openRead (p.source e) :=
  ⟨openRead_stable h.flat.ways.workDir fun k hk => (h.results e he k hk).1.2,
    openRead_stable h.flat'.ways.workDir fun k hk => (h.results e he k hk).2.2⟩

/-- The same file is written in both scratch directories. -/
theorem fills (h : Alongside p results t₀ dir loc dir' loc' t t') {x : FileName} {content : Bytes}
    (hu : Fills (loc ++ [x]) content t u) (hu' : Fills (loc' ++ [x]) content t' u') :
    Alongside p results t₀ dir loc dir' loc' u u' where
  dirs := h.dirs
  flat := h.flat.fills hu
  flat' := h.flat'.fills hu'
  same y := by
    by_cases hy : y = x
    · rw [hy, hu.lookup, hu'.lookup]
    · rw [hu.agree.lookup _ (by simpa using hy), hu'.agree.lookup _ (by simpa using hy), h.same]
  results e he k hk := by
    obtain ⟨⟨hout, hl⟩, hout', hl'⟩ := h.results e he k hk
    have hne : k ≠ loc ++ [x] := fun heq => hout (heq ▸ List.prefix_append ..)
    have hne' : k ≠ loc' ++ [x] := fun heq => hout' (heq ▸ List.prefix_append ..)
    exact ⟨⟨hout, by rw [hu.agree.lookup k hne, hl]⟩, hout', by rw [hu'.agree.lookup k hne', hl']⟩

/-- The first run goes on by itself, and changes nothing in its scratch directory and nothing that
the results depend on. -/
theorem apart (h : Alongside p results t₀ dir loc dir' loc' t t') (hu : Flat t₀ dir loc u)
    (hscratch : ∀ x, u.lookup (loc ++ [x]) = t.lookup (loc ++ [x]))
    (hresults : ∀ e ∈ results.entries, ∀ k ∈ t₀.footprint (p.source e),
      u.lookup k = t.lookup k) : Alongside p results t₀ dir loc dir' loc' u t' where
  dirs := h.dirs
  flat := hu
  flat' := h.flat'
  same x := by rw [hscratch, h.same]
  results e he k hk := by
    obtain ⟨⟨hout, hl⟩, hrest⟩ := h.results e he k hk
    exact ⟨⟨hout, by rw [hresults e he k hk, hl]⟩, hrest⟩

/-- Directories are made in the first run, none in its scratch directory and none on the way to a
result. -/
theorem createDirAll (h : Alongside p results t₀ dir loc dir' loc' t t') {path : String}
    (houtside : ∀ dir ∈ Path.ancestors path, ∀ k ∈ (t.createDirAll path).2.places dir,
      ¬ loc <+: k)
    (hspare : ∀ e ∈ results.entries, ∀ k ∈ t₀.footprint (p.source e), t₀.lookup k = none →
      ∀ dir ∈ Path.ancestors path, k ∉ (t.createDirAll path).2.places dir) :
    Alongside p results t₀ dir loc dir' loc' (t.createDirAll path).2 t' := by
  refine h.apart (h.flat.createDirAll houtside) (fun x => ?_) fun e he k hk => ?_
  · refine Decidable.byContradiction fun hne => ?_
    obtain ⟨dir, hdir, hplace⟩ := createDirAll_made path t hne
    exact houtside dir hdir _ hplace (List.prefix_append ..)
  · refine Decidable.byContradiction fun hne => ?_
    obtain ⟨dir, hdir, hplace⟩ := createDirAll_made path t hne
    obtain ⟨hnone, -⟩ := ((createDirAll_addsDirs path t).lookup k).resolve_left hne
    rw [(h.results e he k hk).1.2] at hnone
    exact hspare e he k hk hnone dir hdir hplace

/-- A file changes in the first run that is not in its scratch directory and on which no result
depends. -/
theorem changesFiles (h : Alongside p results t₀ dir loc dir' loc' t t') {path : String}
    (hu : ChangesFiles (fun k => ∃ s, t.locate .target path = .ok s ∧ s.location = k) t u)
    (houtside : ∀ k ∈ t.places path, ¬ loc <+: k)
    (hspare : ∀ e ∈ results.entries, ∀ k ∈ t₀.footprint (p.source e), k ∉ t.places path) :
    Alongside p results t₀ dir loc dir' loc' u t' := by
  have hkept : ∀ k, k ∉ t.places path → u.lookup k = t.lookup k := fun k hk =>
    hu.agree.lookup k fun ⟨s, hs, hloc⟩ => hk (hloc ▸ mem_places_of_locate hs)
  refine h.apart (h.flat.changesFiles hu) (fun x => hkept _ fun hx => ?_) fun e he k hk => ?_
  · exact houtside _ hx (List.prefix_append ..)
  · exact hkept k (hspare e he k hk)

end Alongside

/-! ## Steps that write data files -/

/-- Extractions from a result into the two scratch directories. -/
theorem extract_alongside (h : Alongside p results t₀ dir loc dir' loc' t t')
    (ha : '/' ∉ a.toList) (b : String) (he : e ∈ results.entries) (tag : String)
    (mode : WriteMode) :
    let r := Extraction.extract (p.source e) tag (Path.join dir (a ++ "_" ++ b)) mode t
    let r' := Extraction.extract (p.source e) tag (Path.join dir' (a ++ "_" ++ b)) mode t'
    r.1 = r'.1 ∧ ∀ n, r.1 = .ok n → Alongside p results t₀ dir loc dir' loc' r.2 r'.2 := by
  intro r r'
  obtain ⟨hopen, hopen'⟩ := h.openRead he
  unfold r r'
  rcases ho : t₀.openRead (p.source e) with fault | origin <;> rw [ho] at hopen hopen'
  · rw [extract_of_openRead_error hopen, extract_of_openRead_error hopen']
    exact ⟨rfl, fun _ h => nomatch h⟩
  obtain ⟨⟨hout, hl⟩, hout', hl'⟩ := h.results e he origin (mem_footprint_of_openRead ho)
  rcases h.flat.openWrite_alike h.flat' h.dirs h.same ha b (mode == .truncate) with
    ⟨fault, hw, hw'⟩ | ⟨x, content, u, u', hw, hw', hu, hu'⟩
  · rw [extract_of_openWrite_error hopen hw, extract_of_openWrite_error hopen' hw']
    exact ⟨rfl, nofun⟩
  · have hne : origin ≠ loc ++ [x] := fun heq => hout (heq ▸ List.prefix_append ..)
    have hne' : origin ≠ loc' ++ [x] := fun heq => hout' (heq ▸ List.prefix_append ..)
    have hread : ∀ {t u loc'}, t.lookup origin = t₀.lookup origin → origin ≠ loc' →
        Fills loc' content t u → u.readAt origin = t₀.readAt origin := by
      intro t u loc' hl hne hu
      rw [readAt_congr ((hu.agree.lookup origin hne).trans hl)]
    have hr := hread hl hne hu
    have hr' := hread hl' hne' hu'
    rcases hc : t₀.readAt origin with fault | bytes
    · rw [hc] at hr hr'
      rw [extract_of_readAt_error hopen hw hr, extract_of_readAt_error hopen' hw' hr']
      exact ⟨rfl, nofun⟩
    · rw [extract_eq hopen hw ((readAt_congr hl).trans hc) hne (h.flat.noDevice x _),
        extract_eq hopen' hw' ((readAt_congr hl').trans hc) hne' (h.flat'.noDevice x _)]
      exact ⟨rfl, fun _ _ => h.fills (hu.append _) (hu'.append _)⟩

theorem createFile_sameEnd (h : Alongside p results t₀ dir loc dir' loc' s.tree s'.tree)
    (ha : '/' ∉ a.toList) (b : String) :
    SameEnd (Alongside p results t₀ dir loc dir' loc')
      (p.perform (.createFile (Path.join dir (a ++ "_" ++ b))) s)
      (p.perform (.createFile (Path.join dir' (a ++ "_" ++ b))) s') := by
  rw [perform, perform, createFile, createFile]
  rcases h.flat.openWrite_alike h.flat' h.dirs h.same ha b true with
    ⟨fault, hw, hw'⟩ | ⟨x, content, u, u', hw, hw', hu, hu'⟩
  · refine changing_sameEnd ?_ fun a ha => ?_
    · simp only [hw, hw']
    · simp only [hw] at ha
      cases ha
  · refine changing_sameEnd ?_ fun a ha => ?_
    · simp only [hw, hw']
    · simp only [hw, hw']
      exact h.fills hu hu'

theorem takeRows_sameEnd (hp : p.extract = Extraction.extract)
    (h : Alongside p results t₀ dir loc dir' loc' s.tree s'.tree) (ha : '/' ∉ a.toList) (b : String)
    (he : e ∈ results.entries) (tag : String) (mode : WriteMode) :
    SameEnd (Alongside p results t₀ dir loc dir' loc')
      (p.perform (.takeRows tag mode (Path.join dir (a ++ "_" ++ b)) e) s)
      (p.perform (.takeRows tag mode (Path.join dir' (a ++ "_" ++ b)) e) s') := by
  obtain ⟨hresult, hrelated⟩ := extract_alongside h ha b he tag mode
  obtain ⟨h₁, h₂⟩ := p.takeRows_spec tag mode (Path.join dir (a ++ "_" ++ b)) e s
  obtain ⟨h₁', h₂'⟩ := p.takeRows_spec tag mode (Path.join dir' (a ++ "_" ++ b)) e s'
  rw [hp] at h₁ h₂ h₁' h₂'
  constructor
  · rw [perform, perform, h₁, h₁', hresult]
  · intro u hu
    rw [perform, h₁] at hu
    rw [perform, perform, h₂, h₂']
    rcases hr : (Extraction.extract (p.source e) tag (Path.join dir (a ++ "_" ++ b)) mode
      s.tree).1 with fault | n
    · rw [hr] at hu
      cases hu
    · exact hrelated n hr

/-- The steps that write the data files of a grouping end in the same way in both directories. -/
theorem dataSteps_sameEnd {v : Variant} (hp : p.extract = Extraction.extract)
    (ha : '/' ∉ v.name.toList) (g : Constraints)
    (h : Alongside p results t₀ dir loc dir' loc' s.tree s'.tree) :
    SameEnd (Alongside p results t₀ dir loc dir' loc')
      (p.performAll (dataSteps v results dir g) s)
      (p.performAll (dataSteps v results dir' g) s') := by
  -- a list of results, each taken into a file whose name depends on the result
  have hentries : ∀ (mode : WriteMode) (file : Entry → String) (entries : List Entry),
      (∀ e ∈ entries, e ∈ results.entries) → ∀ s s' : RunState,
      Alongside p results t₀ dir loc dir' loc' s.tree s'.tree →
      SameEnd (Alongside p results t₀ dir loc dir' loc')
        (p.performAll (entries.map fun e =>
          .takeRows v.tag mode (Path.join dir (v.name ++ "_" ++ file e)) e) s)
        (p.performAll (entries.map fun e =>
          .takeRows v.tag mode (Path.join dir' (v.name ++ "_" ++ file e)) e) s') := by
    intro mode file entries hmem s s' h
    rw [List.map_eq_flatMap, List.map_eq_flatMap]
    refine performAll_flatMap_sameEnd (fun earlier e later heq s₁ s₁' _ hR => ?_) h
    rw [performAll_singleton, performAll_singleton]
    exact takeRows_sameEnd hp hR ha _ (hmem e (by simp [heq])) v.tag mode
  unfold dataSteps
  split
  · rename_i order title _
    exact hentries .truncate Entry.filename _ (fun e he => (ResultSet.mem_select.1 he).1) s s' h
  · rename_i axis values order _
    refine performAll_flatMap_sameEnd (fun earlier value later _ s₁ s₁' _ hR => ?_) h
    unfold groupSteps
    rw [← List.singleton_append, ← List.singleton_append (l := List.map _ _)]
    refine performAll_append_sameEnd ?_ fun s₂ s₂' _ hR₂ => ?_
    · rw [performAll_singleton, performAll_singleton]
      exact createFile_sameEnd hR ha _
    · exact hentries .append (fun _ => (g.union (.single axis value)).key) _
        (fun e he => (ResultSet.mem_select.1 he).1) s₂ s₂' hR₂

end SweepPlot.Plotter
