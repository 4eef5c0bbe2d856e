import SweepPlot.Proofs.Run.Calls

/-!
# How far a run gets

`Plotter.scriptAt` is what comes of the script of a grouping if a run gets that far, and
`Plotter.filesAtPlot` the files with which the run comes to make its plot.

* `performAll_induction` is the rule for what holds throughout a run: an invariant that each step
  keeps when it succeeds, and what is left of it when a step fails.
* `filesAtPlot_of_createPlotsDir` and `filesAtPlot_of_render` say that directories are made and the
  renderer is called for a grouping only when the run comes to its plot.
-/

namespace SweepPlot.Plotter

open RunM

variable (p : Plotter) (v : Variant) (results : ResultSet) (dir : String)

/-- What comes of the script of the grouping at an index, if all groupings before it have been
plotted. -/
def scriptAt (s : RunState) (i : Nat) : Option (Except Failure (Option Script) × RunState) :=
  match p.makeScratch v s.tree, (v.groupings results)[i]? with
  | (.ok (dir, _), t), some g =>
    match p.plotGroupings v results dir ((v.groupings results).take i) ⟨t, s.journal⟩ with
    | (.ok _, s₁) =>
      let build : RunM (Option Script) := do
        RunM.log .info .plotting (v.name ++ ": " ++ g.display)
        p.buildScript v results dir g
      some (build s₁)
    | (.error _, _) => none
  | _, _ => none

/-- The files when the run comes to make the plot of the grouping at an index. -/
def filesAtPlot (s : RunState) (i : Nat) : Option FileTree :=
  match p.scriptAt v results s i with
  | some (.ok (some _), s₁) => some s₁.tree
  | _ => none

/-! ## Throughout a run -/

variable {p v results dir} {s s' : RunState} {steps : List Step}

/-- An invariant that each step keeps when it succeeds holds when all have succeeded. If a step
fails, what it leaves of the invariant holds in the end. -/
theorem performAll_induction {P Q : RunState → Prop} (hs : P s)
    (hstep : ∀ before step after s₁, steps = before ++ step :: after →
      p.performAll before s = (.ok (), s₁) → P s₁ →
      (∀ s₂, p.perform step s₁ = (.ok (), s₂) → P s₂) ∧
        ∀ e s₂, p.perform step s₁ = (.error e, s₂) → Q s₂) :
    (∀ s', p.performAll steps s = (.ok (), s') → P s') ∧
      ∀ e s', p.performAll steps s = (.error e, s') → Q s' := by
  induction steps generalizing s with
  | nil =>
    constructor
    · rintro s' h
      cases h
      exact hs
    · rintro e s' h
      cases h
  | cons step rest ih =>
    obtain ⟨hok, herror⟩ := hstep [] step rest s rfl rfl hs
    rcases h₁ : p.perform step s with ⟨e₁ | u, s₁⟩
    · constructor
      · intro s' h
        rw [performAll, bind_apply, h₁] at h
        cases h
      · intro e s' h
        rw [performAll, bind_apply, h₁] at h
        cases h
        exact herror e₁ s₁ h₁
    · have hrest := ih (hok s₁ h₁) fun before step' after s₂ heq hb =>
        hstep (step :: before) step' after s₂ (by rw [heq, List.cons_append]) (by
          rw [performAll, bind_apply, h₁]
          exact hb)
      have hcons : p.performAll (step :: rest) s = p.performAll rest s₁ := by
        rw [performAll, bind_apply, h₁]
      rwa [hcons]

/-- A call of the renderer that a run comes to is among its calls. -/
theorem mem_renderCalls_of_split {before after : List Step} {script output : String}
    {s₁ : RunState} {events : List Event}
    (hj : (p.performAll (before ++ .render script output :: after) s).2.journal =
      s.journal ++ events) (hb : p.performAll before s = (.ok (), s₁)) :
    ⟨script, output, s₁.tree⟩ ∈ renderCalls events := by
  obtain ⟨first, hfirst, -⟩ := p.performAll_adds before s
  obtain ⟨own, hown, hcalls⟩ := p.perform_calls (.render script output) s₁
  have hmem : ∀ more, (p.performAll (.render script output :: after) s₁).2.journal =
      s₁.journal ++ (own ++ more) → ⟨script, output, s₁.tree⟩ ∈ renderCalls events := by
    intro more hmore
    rw [p.performAll_append_apply hb] at hj
    rw [events_eq_append hj (hfirst.of_ok hb).1 hmore, renderCalls_append, renderCalls_append,
      hcalls]
    simp [Step.call?]
  rcases h : p.perform (.render script output) s₁ with ⟨e | u, s₂⟩
  · refine hmem [] ?_
    rw [performAll, bind_apply, h, List.append_nil]
    exact (hown.of_error h).1
  · obtain ⟨more, hmore, -⟩ := p.performAll_adds after s₂
    refine hmem more ?_
    rw [performAll, bind_apply, h, ← List.append_assoc, ← (hown.of_ok h).1]
    exact hmore.1

/-- A run only adds to the journal. -/
theorem plotVariant_journal (s : RunState) :
    ∃ events, (p.plotVariant results v s).2.journal = s.journal ++ events := by
  rcases hm : p.makeScratch v s.tree with ⟨e | ⟨dir, loc⟩, t⟩
  · rw [plotVariant_of_error p v results hm]
    exact ⟨_, rfl⟩
  · rw [plotVariant_of_ok p v results hm]
    obtain ⟨events, hevents, -⟩ := p.performAll_adds (variantSteps p v results dir) ⟨t, s.journal⟩
    exact ⟨events, hevents.1⟩

/-! ## Coming to a plot -/

variable (v results dir) in
/-- The steps for a grouping up to its script. -/
def stepsToScript (g : Constraints) : List Step :=
  .log .info (v.name ++ ": " ++ g.display) :: dataSteps v results dir g

variable {loc : Location} {t : FileTree} {earlier later : List Constraints} {g : Constraints}
  {s₁ s₂ : RunState} {i : Nat}

/-- The script of a grouping comes from the steps up to it. -/
theorem scriptAt_eq (hm : p.makeScratch v s.tree = (.ok (dir, loc), t))
    (hgs : v.groupings results = earlier ++ g :: later)
    (h₁ : p.performAll (earlier.flatMap (groupingSteps p v results dir)) ⟨t, s.journal⟩ =
      (.ok (), s₁)) :
    p.scriptAt v results s earlier.length =
      some ((p.performAll (stepsToScript v results dir g) s₁).1.map fun _ =>
          if v.hasPlot results g then some (scriptOf v results dir g) else none,
        (p.performAll (stepsToScript v results dir g) s₁).2) := by
  have hg : (v.groupings results)[earlier.length]? = some g := by simp [hgs]
  have htake : (v.groupings results).take earlier.length = earlier := by simp [hgs]
  have hplotted : p.plotGroupings v results dir earlier ⟨t, s.journal⟩ =
      (.ok ((earlier.filter (v.hasPlot results)).map (p.context.outputPath v.name)), s₁) := by
    rw [plotGroupings_eq, bind_apply, h₁]
    rfl
  have hbuild : (do
      RunM.log .info .plotting (v.name ++ ": " ++ g.display)
      p.buildScript v results dir g) = (do
      p.performAll (stepsToScript v results dir g)
      return if v.hasPlot results g then some (scriptOf v results dir g) else none) := by
    rw [buildScript_eq, stepsToScript, performAll]
    simp [perform]
  unfold scriptAt
  simp only [hm, hg, htake, hplotted]
  rw [hbuild, bind_apply]
  rcases p.performAll (stepsToScript v results dir g) s₁ with ⟨e | u, s₂⟩ <;> rfl

/-- A run comes to the script of a grouping after the steps for those before it. -/
theorem exists_of_scriptAt {script : Except Failure (Option Script) × RunState}
    (h : p.scriptAt v results s i = some script) :
    ∃ dir loc t earlier g later s₁, p.makeScratch v s.tree = (.ok (dir, loc), t) ∧
      v.groupings results = earlier ++ g :: later ∧ earlier.length = i ∧
      p.performAll (earlier.flatMap (groupingSteps p v results dir)) ⟨t, s.journal⟩ =
        (.ok (), s₁) := by
  unfold scriptAt at h
  split at h
  · rename_i dir loc t g hm hg
    split at h
    · rename_i outputs s₁ hplotted
      rw [plotGroupings_eq] at hplotted
      obtain ⟨u, s₂, h₁, h₂⟩ := bind_ok hplotted
      cases h₂
      obtain ⟨hi, hg⟩ := List.getElem?_eq_some_iff.1 hg
      refine ⟨dir, loc, t, _, g, (v.groupings results).drop (i + 1), s₁, hm, ?_, ?_, h₁⟩
      · rw [← hg, List.getElem_cons_drop, List.take_append_drop]
      · rw [List.length_take]
        omega
    · cases h
  · cases h

theorem lt_length_of_filesAtPlot (h : p.filesAtPlot v results s i = some t) :
    i < (v.groupings results).length := by
  unfold filesAtPlot at h
  split at h
  · rename_i hscript
    obtain ⟨_, _, _, earlier, g, later, _, -, hgs, rfl, -⟩ := exists_of_scriptAt hscript
    rw [hgs, List.length_append, List.length_cons]
    omega
  · cases h

theorem filesAtPlot_of_stepsToScript (hm : p.makeScratch v s.tree = (.ok (dir, loc), t))
    (hgs : v.groupings results = earlier ++ g :: later) (hplot : v.hasPlot results g = true)
    (h₁ : p.performAll (earlier.flatMap (groupingSteps p v results dir)) ⟨t, s.journal⟩ =
      (.ok (), s₁))
    (h₂ : p.performAll (stepsToScript v results dir g) s₁ = (.ok (), s₂)) :
    p.filesAtPlot v results s earlier.length = some s₂.tree := by
  rw [filesAtPlot, scriptAt_eq hm hgs h₁, h₂, if_pos hplot]
  rfl

/-- The steps for a grouping with a plot, as they are cut where the directory of the plots is
made. -/
theorem groupingSteps_eq (hdry : p.dryRun = false) (hplot : v.hasPlot results g = true) :
    groupingSteps p v results dir g = stepsToScript v results dir g ++
      [.log .debug (Text.trimEnd Text.isWhiteSpace (scriptOf v results dir g).text)] ++
      .createPlotsDir :: [.render (scriptOf v results dir g).text (p.context.outputPath v.name g),
        .log .info (p.context.outputPath v.name g)] := by
  unfold groupingSteps plotSteps stepsToScript
  rw [if_pos hplot, hdry]
  simp

theorem groupingSteps_eq_append_createPlotsDir {before after : List Step}
    (h : groupingSteps p v results dir g = before ++ .createPlotsDir :: after) :
    p.dryRun = false ∧ v.hasPlot results g = true ∧
      before = stepsToScript v results dir g ++
        [.log .debug (Text.trimEnd Text.isWhiteSpace (scriptOf v results dir g).text)] ∧
      after = [.render (scriptOf v results dir g).text (p.context.outputPath v.name g),
        .log .info (p.context.outputPath v.name g)] := by
  have hdata : ∀ step ∈ stepsToScript v results dir g, ¬ step = .createPlotsDir := by
    rintro step hstep rfl
    rcases List.mem_cons.1 hstep with hlog | hstep
    · cases hlog
    · exact isData_of_mem_dataSteps v results dir _ hstep
  have hmem : Step.createPlotsDir ∈ groupingSteps p v results dir g := by
    rw [h]
    simp
  obtain ⟨hdry, hplot⟩ : p.dryRun = false ∧ v.hasPlot results g = true := by
    unfold groupingSteps plotSteps at hmem
    rcases List.mem_append.1 hmem with hmem | hmem
    · exact absurd rfl (hdata _ hmem)
    · cases hdry : p.dryRun <;> cases hplot : v.hasPlot results g <;> simp [hdry, hplot] at hmem ⊢
  rw [groupingSteps_eq hdry hplot] at h
  obtain ⟨hb, -, ha⟩ := split_unique (P := (· = .createPlotsDir)) h
    (by simpa [or_imp, forall_and] using hdata) (by simp) rfl
  exact ⟨hdry, hplot, hb.symm, ha.symm⟩

/-- Directories are made when the run comes to a plot, and right before the renderer is called. -/
theorem filesAtPlot_of_createPlotsDir {before after : List Step}
    (hm : p.makeScratch v s.tree = (.ok (dir, loc), t))
    (hsteps : variantSteps p v results dir = before ++ .createPlotsDir :: after)
    (hb : p.performAll before ⟨t, s.journal⟩ = (.ok (), s₁)) :
    p.dryRun = false ∧ (∃ i, p.filesAtPlot v results s i = some s₁.tree) ∧
      ∃ script output rest, after = .render script output :: rest := by
  obtain ⟨earlier, g, later, before', after', hgs, rfl, hg, rfl⟩ := flatMap_eq_append_cons hsteps
  obtain ⟨hdry, hplot, rfl, rfl⟩ := groupingSteps_eq_append_createPlotsDir hg
  obtain ⟨s₂, h₂, hb⟩ := p.performAll_append_ok hb
  obtain ⟨s₃, h₃, hb⟩ := p.performAll_append_ok hb
  rw [performAll_singleton] at hb
  have hfiles := filesAtPlot_of_stepsToScript hm hgs hplot h₂ h₃
  rw [← log_ok hb] at hfiles
  exact ⟨hdry, ⟨_, hfiles⟩, _, _, _, rfl⟩

/-- The renderer is called when the run has come to a plot. -/
theorem filesAtPlot_of_render {before after : List Step} {script output : String}
    (hm : p.makeScratch v s.tree = (.ok (dir, loc), t))
    (hsteps : variantSteps p v results dir = before ++ .render script output :: after)
    (hb : p.performAll before ⟨t, s.journal⟩ = (.ok (), s₁)) :
    p.dryRun = false ∧ ∃ i t₁, p.filesAtPlot v results s i = some t₁ := by
  obtain ⟨earlier, g, later, before', after', hgs, rfl, hg, -⟩ := flatMap_eq_append_cons hsteps
  obtain ⟨hdry, hplot, rfl, -⟩ := groupingSteps_eq_append_render p v results dir hg
  obtain ⟨s₂, h₂, hb⟩ := p.performAll_append_ok hb
  have hcut : stepsToCall v results dir g = stepsToScript v results dir g ++
      [.log .debug (Text.trimEnd Text.isWhiteSpace (scriptOf v results dir g).text),
        .createPlotsDir] := rfl
  rw [hcut] at hb
  obtain ⟨s₃, h₃, -⟩ := p.performAll_append_ok hb
  exact ⟨hdry, _, _, filesAtPlot_of_stepsToScript hm hgs hplot h₂ h₃⟩

/-- A dry run does not call the renderer. -/
theorem renderCalls_of_dryRun (hdry : p.dryRun = true) {events : List Event}
    (hj : (p.plotVariant results v s).2.journal = s.journal ++ events) :
    renderCalls events = [] := by
  refine List.eq_nil_iff_forall_not_mem.2 fun call hcall => ?_
  obtain ⟨k, hk⟩ := List.mem_iff_getElem?.1 hcall
  obtain ⟨dir, loc, t, hm, hj⟩ := exists_scratch_of_call p v results hj hk
  obtain ⟨before, after, s₁, -, hsteps, hb, -⟩ := p.exists_step_of_call hj hk
  obtain ⟨hno, -⟩ := filesAtPlot_of_render hm hsteps hb
  rw [hdry] at hno
  cases hno

end SweepPlot.Plotter
