import SweepPlot.Proofs.Run.Alongside
import SweepPlot.Proofs.Run.Stamps

/-!
# Dry runs

A dry run ends like the run that makes the plots, if these do not get in the way of the results
(`plotVariant_dry`). The two runs are followed side by side, each with its own scratch directory.

* `plotSteps_sameEnd` is about the steps with which the runs differ: making a plot keeps the runs
  side by side.
* `groupingSteps_sameEnd` puts it together with the steps that write the data files.
* `plotVariant_winding` shows what else can happen if the plots do get in the way.
-/

namespace SweepPlot.Plotter

open RunM FileTree Extraction

variable {p : Plotter} {results : ResultSet} {t₀ t t' : FileTree} {dir dir' : String}
  {loc loc' : Location} {s s' : RunState}

/-! ## Steps for a plot -/

variable {v : Variant} {g : Constraints} {stamps : List String}

/-- The directory of the plots is made if nothing stands in the way. -/
theorem exists_createPlotsDir (level : LogLevel) (message : String)
    (h : (s.tree.createDirAll p.context.plotsPath).1 = .ok ()) :
    ∃ s₁, p.performAll [.log level message, .createPlotsDir] s = (.ok (), s₁) ∧
      s₁.tree = (s.tree.createDirAll p.context.plotsPath).2 := by
  let logged : RunState := { s with journal := s.journal ++ [.log ⟨level, .plotting, message⟩] }
  have htree : (p.createPlotsDir logged).2.tree = _ := createPlotsDir_tree logged
  have hresult : (p.createPlotsDir logged).1 = .ok () := by
    rw [createPlotsDir, changing_result]
    rcases hc : logged.tree.createDirAll p.context.plotsPath with ⟨fault | u, t⟩
    · rw [show s.tree.createDirAll p.context.plotsPath = _ from hc] at h
      cases h
    · rfl
  have hsteps : p.performAll [.log level message, .createPlotsDir] s = p.createPlotsDir logged := by
    rw [← List.singleton_append, performAll_append, performAll_singleton, performAll_singleton]
    rfl
  exact ⟨_, hsteps.trans (Prod.ext hresult rfl), htree⟩

/-- A renderer that always succeeds makes the plot. -/
theorem exists_render (hrender : p.render.WritesOutputOnly)
    (hsucceeds : ∀ n script output t, (p.render n script output t).1 = .ok ())
    (script output : String) (level : LogLevel) (message : String) :
    ∃ s₁, p.performAll [.render script output, .log level message] s = (.ok (), s₁) ∧
      ChangesFiles (fun k => ∃ spot, s.tree.locate .target output = .ok spot ∧
        spot.location = k) s.tree s₁.tree := by
  obtain ⟨n, hn⟩ := renderScript_eq (p := p) script output s
  have hresult : (p.renderScript script output s).1 = .ok () := by
    rw [← hsucceeds n script output s.tree, hn]
  rw [hresult] at hn
  have hperform : p.perform (.render script output) s =
      (.ok (), (p.renderScript script output s).2) := Prod.ext hresult rfl
  refine ⟨{ (p.renderScript script output s).2 with journal :=
    (p.renderScript script output s).2.journal ++ [.log ⟨level, .plotting, message⟩] }, ?_,
    hrender n script output _ _ hn⟩
  rw [performAll, bind_apply, hperform]
  rfl

/-- The steps that make a plot change nothing that the steps of a dry run in their place would leave
and that matters, if the plot and the new directories do not get in the way of the results. -/
theorem plotSteps_sameEnd (hrender : p.render.WritesOutputOnly)
    (hsucceeds : ∀ n script output t, (p.render n script output t).1 = .ok ())
    (hplots : (s.tree.createDirAll p.context.plotsPath).1 = .ok ()) {output : String}
    (houtside : ∀ path ∈ output :: Path.ancestors p.context.plotsPath,
      ∀ k ∈ (s.tree.createDirAll p.context.plotsPath).2.places path, ¬ loc <+: k)
    (hspare : ∀ e ∈ results.entries, ∀ k ∈ t₀.footprint (p.source e),
      k ∉ (s.tree.createDirAll p.context.plotsPath).2.places output ∧
        (t₀.lookup k = none → ∀ path ∈ Path.ancestors p.context.plotsPath,
          k ∉ (s.tree.createDirAll p.context.plotsPath).2.places path))
    (h : Alongside p results t₀ dir loc dir' loc' s.tree s'.tree) (script text text' : String) :
    SameEnd (Alongside p results t₀ dir loc dir' loc')
      (p.performAll ([.log .debug text, .createPlotsDir] ++
        [.render script output, .log .info output]) s)
      (p.performAll [.log .debug text', .log .info ("[DRY RUN] " ++ output)] s') := by
  obtain ⟨s₁, h₁, ht₁⟩ := exists_createPlotsDir .debug text hplots
  obtain ⟨s₂, h₂, hchanges⟩ := exists_render (s := s₁) hrender hsucceeds script output .info output
  have hmade : Alongside p results t₀ dir loc dir' loc' s₁.tree s'.tree := by
    rw [ht₁]
    exact h.createDirAll (fun path hpath => houtside path (List.mem_cons_of_mem _ hpath))
      fun e he k hk => (hspare e he k hk).2
  rw [← ht₁] at houtside hspare
  have hplotted := hmade.changesFiles hchanges (houtside output List.mem_cons_self)
    fun e he k hk => (hspare e he k hk).1
  rw [p.performAll_append_apply h₁, h₂]
  exact .of_ok hplotted

/-- The plotter that makes no plots and has other stamps for its scratch directories. -/
def dry (p : Plotter) (stamps : List String) : Plotter :=
  { p with dryRun := true, scratch := { p.scratch with stamps := stamps } }

theorem performAll_dry (steps : List Step) :
    (p.dry stamps).performAll steps = p.performAll steps := by
  induction steps with
  | nil => rfl
  | cons step rest ih =>
    have hstep : (p.dry stamps).perform step = p.perform step := by cases step <;> rfl
    rw [performAll, performAll, ih, hstep]

theorem groupingSteps_dry (hplot : v.hasPlot results g = true) :
    groupingSteps (p.dry stamps) v results dir g = stepsToScript v results dir g ++
      [.log .debug (Text.trimEnd Text.isWhiteSpace (scriptOf v results dir g).text),
        .log .info ("[DRY RUN] " ++ p.context.outputPath v.name g)] := by
  unfold groupingSteps plotSteps
  rw [hplot]
  rfl

/-- The steps for a grouping without a plot. -/
theorem groupingSteps_of_no_plot (p : Plotter) (hplot : v.hasPlot results g = false) :
    groupingSteps p v results dir g = stepsToScript v results dir g ++
      [.log .debug (v.name ++ ": no results match " ++ g.display ++ ", skipping")] := by
  unfold groupingSteps
  rw [hplot]
  rfl

theorem stepsToScript_sameEnd (hp : p.extract = Extraction.extract) (ha : '/' ∉ v.name.toList)
    (h : Alongside p results t₀ dir loc dir' loc' s.tree s'.tree) :
    SameEnd (Alongside p results t₀ dir loc dir' loc')
      (p.performAll (stepsToScript v results dir g) s)
      (p.performAll (stepsToScript v results dir' g) s') := by
  unfold stepsToScript
  rw [← List.singleton_append, ← List.singleton_append (l := dataSteps v results dir' g)]
  refine performAll_append_sameEnd ?_ fun s₁ s₁' _ h₁ => dataSteps_sameEnd hp ha g h₁
  exact .of_ok h

/-- A run that is not dry and has come to the plot of a grouping calls the renderer for it if the
directory of the plots can be made. -/
theorem mem_renderCalls_of_stepsToScript (hdry : p.dryRun = false)
    (hplot : v.hasPlot results g = true) {events : List Event}
    (hj : (p.performAll (variantSteps p v results dir) s).2.journal = s.journal ++ events)
    {earlier later : List Constraints} (hgs : v.groupings results = earlier ++ g :: later)
    {s₁ s₂ : RunState}
    (h₁ : p.performAll (earlier.flatMap (groupingSteps p v results dir)) s = (.ok (), s₁))
    (h₂ : p.performAll (stepsToScript v results dir g) s₁ = (.ok (), s₂))
    (hplots : (s₂.tree.createDirAll p.context.plotsPath).1 = .ok ()) :
    ⟨(scriptOf v results dir g).text, p.context.outputPath v.name g,
      (s₂.tree.createDirAll p.context.plotsPath).2⟩ ∈ renderCalls events := by
  obtain ⟨s₃, h₃, ht₃⟩ := exists_createPlotsDir .debug
    (Text.trimEnd Text.isWhiteSpace (scriptOf v results dir g).text) hplots
  have hsplit : variantSteps p v results dir =
      (earlier.flatMap (groupingSteps p v results dir) ++ (stepsToScript v results dir g ++
        [.log .debug (Text.trimEnd Text.isWhiteSpace (scriptOf v results dir g).text),
          .createPlotsDir])) ++
      .render (scriptOf v results dir g).text (p.context.outputPath v.name g) ::
        (.log .info (p.context.outputPath v.name g) ::
          later.flatMap (groupingSteps p v results dir)) := by
    rw [variantSteps, hgs, List.flatMap_append, List.flatMap_cons, groupingSteps_eq hdry hplot]
    simp
  rw [hsplit] at hj
  rw [← ht₃]
  refine mem_renderCalls_of_split hj ?_
  rw [p.performAll_append_apply h₁, p.performAll_append_apply h₂, h₃]

/-- The location is looked up on the way to a result. -/
def IsResultPlace (p : Plotter) (results : ResultSet) (t : FileTree) (k : Location) : Prop :=
  ∃ e ∈ results.entries, k ∈ t.footprint (p.source e)

/-- The steps for a grouping end in the same way in a run that makes the plot and in a dry one. -/
theorem groupingSteps_sameEnd (hname : '/' ∉ v.name.toList) (hp : p.extract = Extraction.extract)
    (hrender : p.render.WritesOutputOnly)
    (hsucceeds : ∀ n script output t, (p.render n script output t).1 = .ok ())
    (hdry : p.dryRun = false) (hm : p.makeScratch v s.tree = (.ok (dir, loc), t))
    {events : List Event}
    (hj : (p.performAll (variantSteps p v results dir) ⟨t, s.journal⟩).2.journal =
      s.journal ++ events)
    (hplots : ∀ i t, p.filesAtPlot v results s i = some t →
      (t.createDirAll p.context.plotsPath).1 = .ok ())
    (houtside : ∀ k, IsOutput events k ∨ p.IsPlotsPlace events k → ¬ loc <+: k)
    (hspare : ∀ k, p.IsResultPlace results s.tree k → ¬ IsOutput events k ∧
      (p.IsPlotsDir v results s k → s.tree.lookup k ≠ none))
    {earlier later : List Constraints} (hgs : v.groupings results = earlier ++ g :: later)
    {s₁ s₁' : RunState}
    (h₁ : p.performAll (earlier.flatMap (groupingSteps p v results dir)) ⟨t, s.journal⟩ =
      (.ok (), s₁))
    (h : Alongside p results s.tree dir loc dir' loc' s₁.tree s₁'.tree) :
    SameEnd (Alongside p results s.tree dir loc dir' loc')
      (p.performAll (groupingSteps p v results dir g) s₁)
      (p.performAll (groupingSteps (p.dry stamps) v results dir' g) s₁') := by
  have hscript := stepsToScript_sameEnd (g := g) hp hname h
  cases hplot : v.hasPlot results g with
  | false =>
    rw [groupingSteps_of_no_plot p hplot, groupingSteps_of_no_plot (p.dry stamps) hplot]
    exact performAll_append_sameEnd hscript fun s₂ s₂' _ h₂ => .of_ok h₂
  | true =>
    have hcut : groupingSteps p v results dir g = stepsToScript v results dir g ++
        ([.log .debug (Text.trimEnd Text.isWhiteSpace (scriptOf v results dir g).text),
          .createPlotsDir] ++
        [.render (scriptOf v results dir g).text (p.context.outputPath v.name g),
          .log .info (p.context.outputPath v.name g)]) := by
      rw [groupingSteps_eq hdry hplot]
      simp
    rw [hcut, groupingSteps_dry hplot]
    refine performAll_append_sameEnd hscript fun s₂ s₂' h₂ hR => ?_
    have hfiles := filesAtPlot_of_stepsToScript hm hgs hplot h₁ h₂
    have hmade := hplots _ _ hfiles
    have hcall := mem_renderCalls_of_stepsToScript hdry hplot hj hgs h₁ h₂ hmade
    refine plotSteps_sameEnd hrender hsucceeds hmade (fun path hpath k hk => ?_)
      (fun e he k hk => ?_) hR (scriptOf v results dir g).text _ _
    · rcases List.mem_cons.1 hpath with rfl | hpath
      · exact houtside k (.inl ⟨_, hcall, hk⟩)
      · exact houtside k (.inr ⟨_, hcall, path, hpath, hk⟩)
    obtain ⟨hno, hdirs⟩ := hspare k ⟨e, he, hk⟩
    refine ⟨fun hplace => hno ⟨_, hcall, hplace⟩, fun hnone path hpath hplace => ?_⟩
    exact hdirs ⟨_, _, hfiles, path, hpath, hplace⟩ hnone

/-! ## Whole runs -/

/-- The stamps are for scratch directories of the variant. -/
def Stamps (p : Plotter) (v : Variant) (t : FileTree) (size : Nat) (stamps : List String) : Prop :=
  ScratchSpace.Stamps p.scratch.dir (v.name ++ "-")
    ("-" ++ p.context.experimentId ++ "-" ++ p.context.runId) t size stamps

/-- The results are the same, up to the path of a scratch directory that cannot be made. -/
def SameUpToPath (r r' : Except Failure α) : Prop :=
  r = r' ∨ ∃ path path' fault, r = .error (.io (.atPath path fault)) ∧
    r' = .error (.io (.atPath path' fault))

/-- The files when both runs have made their scratch directories. -/
theorem Alongside.of_createDir (hwf : t₀.WellFormed) (h : t₀.createDir dir = .ok (loc, t))
    (h' : t₀.createDir dir' = .ok (loc', t')) (hdirs : Interchangeable dir dir')
    (hout : ∀ k, p.IsResultPlace results t₀ k → ¬ loc <+: k)
    (hout' : ∀ k, p.IsResultPlace results t₀ k → ¬ loc' <+: k) :
    Alongside p results t₀ dir loc dir' loc' t t' := by
  have hflat := Flat.of_createDir hwf h
  have hflat' := Flat.of_createDir hwf h'
  obtain ⟨s, -, -, -, hne, hl, rfl⟩ := createDir_spec h
  obtain ⟨s', -, -, -, hne', hl', rfl⟩ := createDir_spec h'
  refine ⟨hdirs, hflat, hflat', fun x => ?_,
    fun e he k hk => ⟨⟨hout k ⟨e, he, hk⟩, ?_⟩, hout' k ⟨e, he, hk⟩, ?_⟩⟩
  · rw [lookup_set t₀ hne, if_neg (by simp), hwf.lookup_below hl, lookup_set t₀ hne',
      if_neg (by simp), hwf.lookup_below hl']
  · rw [lookup_set t₀ hne,
      if_neg fun heq : k = _ => hout k ⟨e, he, hk⟩ (heq ▸ List.prefix_refl _)]
  · rw [lookup_set t₀ hne',
      if_neg fun heq : k = _ => hout' k ⟨e, he, hk⟩ (heq ▸ List.prefix_refl _)]

/-- **A dry run ends like the run that makes the plots.** Let the renderer always succeed, let
nothing stand in the way of the directory of the plots, and let neither a plot nor a directory that
is made for it be on the way to a result. A dry run, whose scratch directory has another stamp of
the same length, then gives the same paths or fails with the same error, up to the path of a scratch
directory that cannot be made. It does not call the renderer and leaves all places as they were. The
scratch directories are taken not to be on the way to the results or the plots. -/
theorem plotVariant_dry (hname : '/' ∉ v.name.toList) (hextract : p.extract = Extraction.extract)
    (hrender : p.render.WritesOutputOnly)
    (hsucceeds : ∀ n script output t, (p.render n script output t).1 = .ok ())
    (hdry : p.dryRun = false) (stamps : List String) {s : RunState} (hsound : s.tree.Sound)
    {events : List Event}
    (hevents : (p.plotVariant results v s).2.journal = s.journal ++ events)
    (hplots : ∀ i t, p.filesAtPlot v results s i = some t →
      (t.createDirAll p.context.plotsPath).1 = .ok ())
    (hspare : ∀ k, p.IsResultPlace results s.tree k → ¬ IsOutput events k ∧
      (p.IsPlotsDir v results s k → s.tree.lookup k ≠ none))
    {size : Nat} (hstamps : p.Stamps v s.tree size p.scratch.stamps)
    (hstamps' : p.Stamps v s.tree size stamps)
    (houtside : p.ScratchApart v s.tree fun k =>
      p.IsResultPlace results s.tree k ∨ IsOutput events k ∨ p.IsPlotsPlace events k)
    (houtside' : (p.dry stamps).ScratchApart v s.tree (p.IsResultPlace results s.tree)) :
    let run := (p.dry stamps).plotVariant results v s
    SameUpToPath (p.plotVariant results v s).1 run.1 ∧
      (∃ events', run.2.journal = s.journal ++ events' ∧ renderCalls events' = []) ∧
      run.2.tree.workDir = s.tree.workDir ∧ ∀ k, run.2.tree.lookup k = s.tree.lookup k := by
  intro run
  obtain ⟨events', hevents'⟩ : ∃ events',
      ((p.dry stamps).plotVariant results v s).2.journal = s.journal ++ events' :=
    plotVariant_journal s
  have hnoCalls := renderCalls_of_dryRun (p := p.dry stamps) rfl hevents'
  have hchangesOnly : (p.dry stamps).render.ChangesOutputOnly := by
    refine ⟨hrender, fun n script output t e t' _ h => ?_⟩
    have hok : ((p.dry stamps).render n script output t).1 = .ok () := hsucceeds n script output t
    rw [h] at hok
    cases hok
  obtain ⟨hwork, hchanges⟩ := plotVariant_changes (p := p.dry stamps) hname hextract hchangesOnly
    hsound hevents' (by simp [ScratchApart, IsPlotsPlace, hnoCalls])
  refine ⟨?_, ⟨events', hevents', hnoCalls⟩, hwork, fun k => ?_⟩
  · unfold run
    have hafter : ("-" ++ p.context.experimentId ++ "-" ++ p.context.runId).toList ≠ [] := by simp
    rcases ScratchSpace.make_alike hname hafter hstamps hstamps' with
      ⟨dir, loc, t, dir', loc', t', hm, hm', hdirs⟩ | ⟨path, path', fault, hm, hm'⟩
    · have hm : p.makeScratch v s.tree = (.ok (dir, loc), t) := hm
      have hm' : (p.dry stamps).makeScratch v s.tree = (.ok (dir', loc'), t') := hm'
      rw [plotVariant_of_ok _ v results hm] at hevents ⊢
      rw [plotVariant_of_ok _ v results hm', performAll_dry]
      have hout := houtside dir loc t hm
      have hstart : Alongside p results s.tree dir loc dir' loc' t t' :=
        .of_createDir hsound.wellFormed (createDir_of_make hm) (createDir_of_make hm') hdirs
          (fun k hk => hout k (.inl hk)) (houtside' dir' loc' t' hm')
      have hsame : SameEnd (Alongside p results s.tree dir loc dir' loc')
          (p.performAll (variantSteps p v results dir) ⟨t, s.journal⟩)
          (p.performAll (variantSteps (p.dry stamps) v results dir') ⟨t', s.journal⟩) :=
        performAll_flatMap_sameEnd (fun earlier g later hgs s₁ s₁' h₁ hR =>
          groupingSteps_sameEnd hname hextract hrender hsucceeds hdry hm hevents hplots
            (fun k hk => hout k (.inr hk)) hspare hgs h₁ hR) hstart
      rw [hsame.result]
      exact .inl rfl
    · have hm : p.makeScratch v s.tree = (.error (.io (.atPath path fault)), s.tree) := hm
      have hm' : (p.dry stamps).makeScratch v s.tree =
        (.error (.io (.atPath path' fault)), s.tree) := hm'
      rw [plotVariant_of_error _ v results hm, plotVariant_of_error _ v results hm']
      exact .inr ⟨path, path', fault, rfl, rfl⟩
  · refine Decidable.byContradiction fun hk => ?_
    obtain ⟨⟨hno, -⟩, -⟩ := hchanges k hk
    cases hno

/-- The directory of the plots can be made whenever the run comes to a plot if this is so for each
grouping. -/
theorem createDirAll_of_forall_lt
    (h : ∀ i < (v.groupings results).length, (p.filesAtPlot v results s i).all fun t =>
      (t.createDirAll p.context.plotsPath).1.toOption.isSome) {i : Nat}
    (hi : p.filesAtPlot v results s i = some t) :
    (t.createDirAll p.context.plotsPath).1 = .ok () := by
  have hsome := h i (lt_length_of_filesAtPlot hi)
  rw [hi, Option.all_some] at hsome
  rcases hc : (t.createDirAll p.context.plotsPath).1 with fault | u
  · rw [hc] at hsome
    cases hsome
  · rfl

/-- A renderer that always succeeds. -/
def steadyRender : Renderer := fun _ _ output t =>
  match t.openWrite true output with
  | .ok (loc, t) => (.ok (), t.append loc (Text.Utf8.encode "%PDF"))
  | .error _ => (.ok (), t)

theorem steadyRender_succeeds (n : Nat) (script output : String) (t : FileTree) :
    (steadyRender n script output t).1 = .ok () := by
  unfold steadyRender
  split <;> rfl

theorem steadyRender_writesOutputOnly : Renderer.WritesOutputOnly steadyRender := by
  intro n script output t t' h
  unfold steadyRender at h
  split at h
  · rename_i loc t₁ ho
    obtain ⟨-, rfl⟩ := Prod.mk.inj h
    exact openWrite_changesFiles ho (append_agree _ _ _) (lookup_append_self _ _ _)
  · obtain ⟨-, rfl⟩ := Prod.mk.inj h
    exact ⟨rfl, fun _ => .inl rfl⟩

/-- Single digits are stamps. -/
theorem stamps_halfBroken {stamp : String} (h : stamp ∈ ["0", "1"]) :
    (samplePlotter steadyRender).Stamps sampleVariant halfBrokenTree 1 [stamp] := by
  have hslash : ∀ stamp ∈ ["0", "1"], '/' ∉ ("v-" ++ stamp ++ "-x-1").toList := by decide
  have hfree : ∀ stamp ∈ ["0", "1"],
      (halfBrokenTree.createDir (Path.join "/t" ("v-" ++ stamp ++ "-x-1"))).toOption.isSome := by
    decide +kernel
  have halphanumeric : ∀ stamp ∈ ["0", "1"], stamp.utf8ByteSize = 1 ∧
      stamp.toList.all Char.isAlphanum = true := by decide
  constructor
  · rintro _ hmem
    cases List.mem_singleton.1 hmem
    obtain ⟨hsize, hall⟩ := halphanumeric stamp h
    refine ⟨hsize, List.all_eq_true.1 hall, fun first rest heq => ?_⟩
    have hno : '/' ∉ (first ++ "/" ++ rest).toList := heq ▸ hslash stamp h
    simp at hno
  · refine ⟨stamp, List.mem_singleton_self _, fun htaken => ?_⟩
    have hsome := hfree stamp h
    have htaken : halfBrokenTree.createDir (Path.join "/t" ("v-" ++ stamp ++ "-x-1")) = _ := htaken
    rw [htaken] at hsome
    cases hsome

/-- The run that makes plots of the half broken files with it. -/
def steadyRun : Except Failure (List String) × RunState :=
  (samplePlotter steadyRender).plotVariant sampleResults sampleVariant ⟨halfBrokenTree, []⟩

/-- The dry run on these files. -/
def dryRunHalfBroken : Except Failure (List String) × RunState :=
  ((samplePlotter steadyRender).dry ["1"]).plotVariant sampleResults sampleVariant
    ⟨halfBrokenTree, []⟩

/-- The run makes the first plot and fails at the second result, and so does the dry run, which
makes no plot. -/
theorem plotVariant_dry_halfBroken :
    steadyRun.2.tree.read "/p/1/x/v_n=1.pdf" = .ok (Text.Utf8.encode "%PDF") ∧
    dryRunHalfBroken.1 = .error (.extraction "/r/1/x/b_n=2" "LATENCYFRACTION" .notUtf8) ∧
      ∀ k, dryRunHalfBroken.2.tree.lookup k = halfBrokenTree.lookup k := by
  have hfailed : steadyRun.1 = .error (.extraction "/r/1/x/b_n=2" "LATENCYFRACTION" .notUtf8) :=
    error_of_match (by decide +kernel)
  have hsound : halfBrokenTree.Sound := ⟨wellFormed_of_nodes (by decide), by decide⟩
  have hrun : (samplePlotter steadyRender).plotVariant sampleResults sampleVariant
      ⟨halfBrokenTree, []⟩ = steadyRun := by rw [steadyRun]
  have hdry : ((samplePlotter steadyRender).dry ["1"]).plotVariant sampleResults sampleVariant
      ⟨halfBrokenTree, []⟩ = dryRunHalfBroken := by rw [dryRunHalfBroken]
  have hevents : ((samplePlotter steadyRender).plotVariant sampleResults sampleVariant
      ⟨halfBrokenTree, []⟩).2.journal = [] ++ steadyRun.2.journal := by
    rw [List.nil_append, hrun]
  -- the results are where something stands, and no plot is there
  have hplaces : ∀ e ∈ sampleResults.entries,
      ∀ k ∈ halfBrokenTree.footprint ((samplePlotter steadyRender).source e),
        (¬ [.text "t"] <+: k ∧ halfBrokenTree.lookup k ≠ none) ∧
        ∀ call ∈ renderCalls steadyRun.2.journal, k ∉ call.tree.places call.output := by
    decide +kernel
  have hcalls : ∀ call ∈ renderCalls steadyRun.2.journal,
      ∀ path ∈ call.output :: Path.ancestors (samplePlotter steadyRender).context.plotsPath,
        ∀ k ∈ call.tree.places path, ¬ [.text "t"] <+: k := by decide +kernel
  have hplots : ∀ i < (sampleVariant.groupings sampleResults).length,
      ((samplePlotter steadyRender).filesAtPlot sampleVariant sampleResults
        ⟨halfBrokenTree, []⟩ i).all fun t =>
          (t.createDirAll (samplePlotter steadyRender).context.plotsPath).1.toOption.isSome := by
    decide +kernel
  have hmake : ∀ stamp ∈ ["0", "1"], ∀ dir loc t,
      ((samplePlotter steadyRender).dry [stamp]).makeScratch sampleVariant halfBrokenTree =
        (.ok (dir, loc), t) → [.text "t"] <+: loc := by
    have hloc : ∀ stamp ∈ ["0", "1"],
        (((samplePlotter steadyRender).dry [stamp]).makeScratch sampleVariant
          halfBrokenTree).1.toOption.all fun made => [.text "t"].isPrefixOf made.2 := by
      decide +kernel
    intro stamp hstamp dir loc t hm
    have h := hloc stamp hstamp
    rw [hm] at h
    exact List.isPrefixOf_iff_prefix.1 h
  have hresults : ∀ stamp ∈ ["0", "1"],
      ((samplePlotter steadyRender).dry [stamp]).ScratchApart sampleVariant halfBrokenTree
        ((samplePlotter steadyRender).IsResultPlace sampleResults halfBrokenTree) := by
    rintro stamp hstamp dir loc t hm k ⟨e, he, hk⟩ hout
    exact (hplaces e he k hk).1.1 ((hmake stamp hstamp dir loc t hm).trans hout)
  have hapart : (samplePlotter steadyRender).ScratchApart sampleVariant halfBrokenTree fun k =>
      (samplePlotter steadyRender).IsResultPlace sampleResults halfBrokenTree k ∨
        IsOutput steadyRun.2.journal k ∨
        (samplePlotter steadyRender).IsPlotsPlace steadyRun.2.journal k := by
    rintro dir loc t hm k (hk | ⟨call, hcall, hk⟩ | ⟨call, hcall, path, hpath, hk⟩)
    · exact hresults "0" (by decide) dir loc t hm k hk
    · exact fun hout => hcalls call hcall _ List.mem_cons_self k hk
        ((hmake "0" (by decide) dir loc t hm).trans hout)
    · exact fun hout => hcalls call hcall path (List.mem_cons_of_mem _ hpath) k hk
        ((hmake "0" (by decide) dir loc t hm).trans hout)
  obtain ⟨hsame, -, -, hkept⟩ := plotVariant_dry (p := samplePlotter steadyRender)
    (v := sampleVariant) (by decide) rfl steadyRender_writesOutputOnly steadyRender_succeeds rfl
    ["1"] (s := ⟨halfBrokenTree, []⟩) hsound hevents
    (fun i t hi => createDirAll_of_forall_lt hplots hi)
    (fun k ⟨e, he, hk⟩ => by
      obtain ⟨⟨-, hstands⟩, hout⟩ := hplaces e he k hk
      exact ⟨fun ⟨call, hcall, hplace⟩ => hout call hcall hplace, fun _ => hstands⟩)
    (stamps_halfBroken (by decide)) (stamps_halfBroken (by decide)) hapart
    (hresults "1" (by decide))
  rw [hdry] at hsame hkept
  rw [hrun, hfailed] at hsame
  refine ⟨ok_of_toOption (by decide +kernel), ?_, hkept⟩
  rcases hsame with hsame | ⟨path, path', fault, hio, -⟩
  · exact hsame.symm
  · cases hio

/-- A result that is a link, which leads through the directory of the plots to a file beside it. -/
def windingTree : FileTree where
  nodes :=
    let dir : Location := [.text "r", .text "1", .text "x"]
    [([.text "t"], .dir), ([.text "r"], .dir), ([.text "r", .text "1"], .dir), (dir, .dir),
      (dir ++ [.text "raw"], .file (Text.Utf8.encode "0\tLATENCYFRACTION\t5\t0.5\n")),
      (dir ++ [.text "b_n=1"], .link "/p/1/x/../../../r/1/x/raw")]
  workDir := []

/-- The one result of these files. -/
def windingResults : ResultSet where
  label := "b"
  entries := [⟨"b_n=1", .ofList [("n", .int 1)]⟩]
  parsed e he := by
    cases List.mem_singleton.1 he
    rfl

/-- A plot without data, and one with the result. -/
def emptyPlotFirst : Variant :=
  { (Variant.named "v").across (.listed "n" [.int 2, .int 1]) with emptyPolicy := .emit }

/-- A dry run does not always end like the run that makes the plots. Here the directory of the
plots, which is none of the results, is on the way to a result: the first plot needs no result, and
the second one needs this directory. -/
theorem plotVariant_winding :
    '/' ∉ emptyPlotFirst.name.toList ∧ (∀ e ∈ windingResults.entries, '/' ∉ e.filename.toList) ∧
    (samplePlotter steadyRender).render.WritesOutputOnly ∧
    (∀ n script output t, ((samplePlotter steadyRender).render n script output t).1 = .ok ()) ∧
    windingTree.Sound ∧
    (∀ call ∈ renderCalls ((samplePlotter steadyRender).plotVariant windingResults emptyPlotFirst
        ⟨windingTree, []⟩).2.journal,
      ∀ path ∈ call.output :: Path.ancestors (samplePlotter steadyRender).context.plotsPath,
        ∀ e ∈ windingResults.entries,
          ¬ call.tree.SamePlace path ((samplePlotter steadyRender).source e)) ∧
    (∀ i t, (samplePlotter steadyRender).filesAtPlot emptyPlotFirst windingResults
        ⟨windingTree, []⟩ i = some t →
      (t.createDirAll (samplePlotter steadyRender).context.plotsPath).1 = .ok ()) ∧
    ((samplePlotter steadyRender).plotVariant windingResults emptyPlotFirst ⟨windingTree, []⟩).1 =
      .ok ["/p/1/x/v_n=2.pdf", "/p/1/x/v_n=1.pdf"] ∧
    (((samplePlotter steadyRender).dry ["1"]).plotVariant windingResults emptyPlotFirst
      ⟨windingTree, []⟩).1 =
      .error (.extraction "/r/1/x/b_n=1" "LATENCYFRACTION" (.os .notFound)) := by
  have hplots : ∀ i < (emptyPlotFirst.groupings windingResults).length,
      ((samplePlotter steadyRender).filesAtPlot emptyPlotFirst windingResults
        ⟨windingTree, []⟩ i).all fun t =>
          (t.createDirAll (samplePlotter steadyRender).context.plotsPath).1.toOption.isSome := by
    decide +kernel
  refine ⟨by decide, by decide, steadyRender_writesOutputOnly, steadyRender_succeeds,
    ⟨wellFormed_of_nodes (by decide), by decide⟩, by decide +kernel,
    fun i t hi => createDirAll_of_forall_lt hplots hi, ok_of_toOption (by decide +kernel),
    error_of_match (by decide +kernel)⟩

end SweepPlot.Plotter
