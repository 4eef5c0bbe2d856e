import SweepPlot.Proofs.Run.Activity
import SweepPlot.Run

/-!
# A run as a list of steps

What a run does, its failures apart, is known before it starts: the groupings, the results that
each selects, the data files, the scripts. `Plotter.groupingSteps` lists the steps for a grouping,
and plotting groupings is performing their steps in order (`plotGroupings_eq`): which plots there
are does not depend on how the steps go, but only whether all of them are reached.

* `perform` and `performAll` perform steps; the first failure ends the list.
* `hasPlot` says which groupings have a plot, `scriptOf` what its script is.
* `performAll_adds` says what the steps add to the journal, and `exists_step_of_call` what has
  been done when the renderer is called.
-/

namespace SweepPlot

namespace Variant

/-- The data file of a result. -/
def entryFile (v : Variant) (e : Entry) : String := v.name ++ "_" ++ e.filename

/-- The data file of a group. -/
def groupFile (v : Variant) (group : Constraints) : String := v.name ++ "_" ++ group.key

/-- Whether a grouping has a plot: something matches it, or empty plots are made too. -/
def hasPlot (v : Variant) (results : ResultSet) (g : Constraints) : Bool :=
  v.emptyPolicy == .emit || v.matchesAny results g

/-- The groupings that have a plot, in order. -/
def plottedGroupings (v : Variant) (results : ResultSet) : List Constraints :=
  (v.groupings results).filter (v.hasPlot results)

end Variant

namespace Plotter

open RunM

/-- The file of a result. -/
def source (p : Plotter) (e : Entry) : String := Path.join p.context.resultsPath e.filename

/-- One step of a run. -/
inductive Step
  | log (level : LogLevel) (message : String)
  /-- An empty data file is made. -/
  | createFile (path : String)
  /-- The rows of a result are taken into a data file. -/
  | takeRows (tag : String) (mode : WriteMode) (dataFile : String) (e : Entry)
  | createPlotsDir
  | render (script output : String)

/-- The plot that a step makes. -/
def Step.output? : Step → Option String
  | .render _ output => some output
  | _ => none

variable (p : Plotter) (v : Variant) (results : ResultSet) (dir : String)

/-- Perform a step. -/
def perform : Step → RunM Unit
  | .log level message => RunM.log level .plotting message
  | .createFile path => Plotter.createFile path
  | .takeRows tag mode dataFile e => p.takeRows tag mode dataFile e
  | .createPlotsDir => p.createPlotsDir
  | .render script output => p.renderScript script output

/-- Perform steps in order. -/
def performAll : List Step → RunM Unit
  | [] => return ()
  | step :: rest => do
    p.perform step
    performAll rest

/-! ## The steps of a grouping -/

/-- The results of a group. -/
def groupEntries (g : Constraints) (axis : String) (order : Order) (value : Value) : List Entry :=
  results.select (g.union (.single axis value)) v.predicate order

/-- The steps that write the data files of results. -/
def entrySteps (entries : List Entry) : List Step :=
  entries.map fun e => .takeRows v.tag .truncate (Path.join dir (v.entryFile e)) e

/-- The steps that write the data file of a group. -/
def groupSteps (g : Constraints) (axis : String) (order : Order) (value : Value) : List Step :=
  let dataFile := Path.join dir (v.groupFile (g.union (.single axis value)))
  .createFile dataFile ::
    (groupEntries v results g axis order value).map (.takeRows v.tag .append dataFile)

/-- The steps that write the data files of a grouping. -/
def dataSteps (g : Constraints) : List Step :=
  match v.layout with
  | .perEntry order _ => entrySteps v dir (results.select g v.predicate order)
  | .perGroup axis values order => values.flatMap (groupSteps v results dir g axis order)

/-- The curves of results, of which the first has the given index. -/
def entryCurves (title : SeriesTitle) (index : Nat) (entries : List Entry) : List Series :=
  entries.mapIdx fun i e =>
    ⟨Path.join dir (v.entryFile e), entryStyle (index + i), title.text e.parameters⟩

/-- The curve of a group. -/
def groupCurve (g : Constraints) (axis : String) (value : Value) : Series :=
  ⟨Path.join dir (v.groupFile (g.union (.single axis value))), groupStyle, value.display⟩

/-- The script of a grouping. -/
def scriptOf (g : Constraints) : Script where
  directives := v.template.directives
  series := match v.layout with
    | .perEntry order title => entryCurves v dir title 0 (results.select g v.predicate order)
    | .perGroup axis values _ => values.map (groupCurve v dir g axis)

variable {v} in
theorem scriptOf_perEntry {order : Order} {title : SeriesTitle}
    (h : v.layout = .perEntry order title) (g : Constraints) :
    scriptOf v results dir g = ⟨v.template.directives,
      (results.select g v.predicate order).mapIdx fun i e =>
        ⟨Path.join dir (v.name ++ "_" ++ e.filename),
          "using 1:2 with lines lw 2 dt " ++ Text.Decimal.text (2 + i),
          title.text e.parameters⟩⟩ := by
  unfold scriptOf
  rw [h]
  simp only [entryCurves, Nat.zero_add, Variant.entryFile]
  rfl

variable {v} in
theorem scriptOf_perGroup {axis : String} {values : List Value} {order : Order}
    (h : v.layout = .perGroup axis values order) (g : Constraints) :
    scriptOf v results dir g = ⟨v.template.directives, values.map fun value =>
      ⟨Path.join dir (v.name ++ "_" ++ (g.union (.single axis value)).key),
        "using 1:2:xtic(1) with linespoints", value.display⟩⟩ := by
  unfold scriptOf
  rw [h]
  rfl

/-- The steps that make the plot of a grouping from its data files. -/
def plotSteps (g : Constraints) : List Step :=
  let output := p.context.outputPath v.name g
  let script := (scriptOf v results dir g).text
  .log .debug (Text.trimEnd Text.isWhiteSpace script) ::
    if p.dryRun then [.log .info ("[DRY RUN] " ++ output)]
    else [.createPlotsDir, .render script output, .log .info output]

/-- The steps for a grouping. -/
def groupingSteps (g : Constraints) : List Step :=
  .log .info (v.name ++ ": " ++ g.display) :: dataSteps v results dir g ++
    if v.hasPlot results g then plotSteps p v results dir g
    else [.log .debug (v.name ++ ": no results match " ++ g.display ++ ", skipping")]

/-! ## Plotting is performing steps -/

theorem performAll_append (a b : List Step) :
    p.performAll (a ++ b) = (do p.performAll a; p.performAll b) := by
  induction a with
  | nil => simp [performAll]
  | cons step rest ih => simp [performAll, ih]

theorem performAll_singleton (step : Step) : p.performAll [step] = p.perform step := by
  simp [performAll]

theorem entrySeries_eq (title : SeriesTitle) (index : Nat) (entries : List Entry) :
    p.entrySeries v dir title index entries = (do
      p.performAll (entrySteps v dir entries)
      return entryCurves v dir title index entries) := by
  induction entries generalizing index with
  | nil => simp [entrySeries, entrySteps, entryCurves, performAll]
  | cons e rest ih =>
    have hcurves : entryCurves v dir title index (e :: rest) =
        ⟨Path.join dir (v.entryFile e), entryStyle index, title.text e.parameters⟩ ::
          entryCurves v dir title (index + 1) rest := by
      simp [entryCurves, List.mapIdx_cons, Nat.add_assoc, Nat.add_comm 1]
    rw [entrySeries, ih, hcurves]
    simp [entrySteps, performAll, perform, Variant.entryFile]

theorem takeAllRows_eq (tag dataFile : String) (entries : List Entry) :
    p.takeAllRows tag dataFile entries =
      p.performAll (entries.map (.takeRows tag .append dataFile)) := by
  induction entries with
  | nil => rfl
  | cons e rest ih => simp [takeAllRows, performAll, perform, ih]

/-- The number of results that match the groups of some values, each counted as often as it
matches. -/
def matchCount (g : Constraints) (axis : String) (order : Order) (values : List Value) : Nat :=
  (values.map fun value => (groupEntries v results g axis order value).length).foldr (· + ·) 0

theorem groupSeries_eq (g : Constraints) (axis : String) (order : Order) (values : List Value) :
    p.groupSeries v results dir g axis order values = (do
      p.performAll (values.flatMap (groupSteps v results dir g axis order))
      return (matchCount v results g axis order values,
        values.map (groupCurve v dir g axis))) := by
  induction values with
  | nil => simp [groupSeries, performAll, matchCount]
  | cons value rest ih =>
    rw [groupSeries, ih, List.flatMap_cons, performAll_append]
    simp [takeAllRows_eq, groupSteps, performAll, perform, groupEntries, groupCurve, matchCount,
      Variant.groupFile]

theorem matchCount_eq_zero_iff (g : Constraints) (axis : String) (order : Order)
    (values : List Value) :
    matchCount v results g axis order values = 0 ↔
      ∀ value ∈ values, groupEntries v results g axis order value = [] := by
  induction values with
  | nil => simp [matchCount]
  | cons value rest ih =>
    simp only [matchCount, List.map_cons, List.foldr_cons, List.forall_mem_cons] at ih ⊢
    rw [Nat.add_eq_zero_iff, ih, List.length_eq_zero_iff]

/-- The script is built by writing the data files; there is one exactly if the grouping has a
plot. The number of matches counts results more than once if several groups have them, which does
not matter here, as it is only compared with zero. -/
theorem buildScript_eq (g : Constraints) :
    p.buildScript v results dir g = (do
      p.performAll (dataSteps v results dir g)
      return if v.hasPlot results g then some (scriptOf v results dir g) else none) := by
  unfold buildScript layoutSeries dataSteps scriptOf Variant.hasPlot Variant.matchesAny
  cases hl : v.layout with
  | perEntry order title =>
    cases he : v.emptyPolicy with
    | emit => simp [entrySeries_eq]
    | skip =>
      by_cases hs : results.select g v.predicate order = [] <;> simp [entrySeries_eq, hs]
  | perGroup axis values order =>
    have hany : (values.any fun value =>
        !(results.select (g.union (.single axis value)) v.predicate order).isEmpty) = true ↔
          matchCount v results g axis order values ≠ 0 := by
      rw [Ne, matchCount_eq_zero_iff]
      simp [groupEntries]
    cases he : v.emptyPolicy with
    | emit => simp [groupSeries_eq]
    | skip =>
      by_cases hc : matchCount v results g axis order values = 0
      · have : ¬ _ := fun h => hany.1 h hc
        simp [groupSeries_eq, hc, Bool.eq_false_iff.2 this]
      · simp [groupSeries_eq, hc, hany.2 hc]

theorem plotGrouping_eq (g : Constraints) :
    p.plotGrouping v results dir g = (do
      p.performAll (groupingSteps p v results dir g)
      return if v.hasPlot results g then some (p.context.outputPath v.name g) else none) := by
  rw [plotGrouping, buildScript_eq, groupingSteps, List.cons_append, performAll, performAll_append]
  cases hg : v.hasPlot results g with
  | false => simp [perform, performAll]
  | true =>
    cases hd : p.dryRun <;> simp [perform, performAll, plotSteps, hd]

/-- Plotting groupings is performing their steps; the plots are those of the groupings that have
one. -/
theorem plotGroupings_eq (gs : List Constraints) :
    p.plotGroupings v results dir gs = (do
      p.performAll (gs.flatMap (groupingSteps p v results dir))
      return (gs.filter (v.hasPlot results)).map (p.context.outputPath v.name)) := by
  induction gs with
  | nil => simp [plotGroupings, performAll]
  | cons g rest ih =>
    rw [plotGroupings, plotGrouping_eq, ih, List.flatMap_cons, performAll_append]
    cases hg : v.hasPlot results g <;> simp [hg]

/-- Make the scratch directory of a variant. -/
def makeScratch (t : FileTree) : Except Failure (String × Location) × FileTree :=
  ScratchSpace.make p.scratch.dir (v.name ++ "-")
    ("-" ++ p.context.experimentId ++ "-" ++ p.context.runId) t p.scratch.stamps

/-- The steps for all groupings of a variant. -/
def variantSteps : List Step := (v.groupings results).flatMap (groupingSteps p v results dir)

/-- The plots of a variant, in order. -/
def plots : List String := (v.plottedGroupings results).map (p.context.outputPath v.name)

theorem plotVariant_eq :
    p.plotVariant results v = (changing (p.makeScratch v) >>= fun made =>
      thenRemoving made.2 (p.plotGroupings v results made.1 (v.groupings results))) := rfl

/-- Without a scratch directory there is no run. -/
theorem plotVariant_of_error {s : RunState} {e : Failure} {t : FileTree}
    (h : p.makeScratch v s.tree = (.error e, t)) :
    p.plotVariant results v s = (.error e, ⟨t, s.journal ++ [.failed e]⟩) := by
  rw [plotVariant_eq, bind_apply, changing, h]

/-- A run with a scratch directory performs the steps and removes the directory again. -/
theorem plotVariant_of_ok {s : RunState} {dir : String} {loc : Location} {t : FileTree}
    (h : p.makeScratch v s.tree = (.ok (dir, loc), t)) :
    p.plotVariant results v s =
      ((p.performAll (variantSteps p v results dir) ⟨t, s.journal⟩).1.map fun _ =>
          plots p v results,
        { (p.performAll (variantSteps p v results dir) ⟨t, s.journal⟩).2 with
          tree := (p.performAll (variantSteps p v results dir) ⟨t, s.journal⟩).2.tree.remove
            loc }) := by
  rw [plotVariant_eq, bind_apply, changing, h]
  show thenRemoving loc (p.plotGroupings v results dir (v.groupings results)) ⟨t, s.journal⟩ = _
  rw [thenRemoving, plotGroupings_eq, bind_apply, variantSteps]
  rcases p.performAll ((v.groupings results).flatMap (groupingSteps p v results dir))
    ⟨t, s.journal⟩ with ⟨e | u, s'⟩ <;> rfl

/-- A run that succeeds gives the plots of the variant. -/
theorem outputs_of_plotVariant {s : RunState} {outputs : List String}
    (h : (p.plotVariant results v s).1 = .ok outputs) : outputs = plots p v results := by
  rcases hm : p.makeScratch v s.tree with ⟨e | ⟨dir, loc⟩, t⟩
  · rw [plotVariant_of_error p v results hm] at h
    cases h
  · rw [plotVariant_of_ok p v results hm] at h
    rcases hr : p.performAll (variantSteps p v results dir) ⟨t, s.journal⟩ with ⟨e | u, s'⟩ <;>
      rw [hr] at h
    · cases h
    · exact (Except.ok.inj h).symm

/-! ## What steps add to the journal -/

/-- Rows are taken by one call of the extractor, which is recorded first. -/
theorem takeRows_apply (tag : String) (mode : WriteMode) (dataFile : String) (e : Entry)
    (s : RunState) :
    p.takeRows tag mode dataFile e s =
      (changing (p.extract (p.source e) tag dataFile mode) >>= fun rows =>
        RunM.log .trace .extraction ("extracted " ++ toString rows ++ " " ++ tag ++
          " rows from " ++ p.source e ++ " into " ++ dataFile))
        { s with
          journal := s.journal ++ [.extracting (p.source e) tag dataFile mode s.tree] } := rfl

/-- Taking rows ends as the extraction does. -/
theorem takeRows_spec (tag : String) (mode : WriteMode) (dataFile : String) (e : Entry)
    (s : RunState) :
    let r := p.extract (p.source e) tag dataFile mode s.tree
    (p.takeRows tag mode dataFile e s).1 = r.1.map (fun _ => ()) ∧
      (p.takeRows tag mode dataFile e s).2.tree = r.2 := by
  rw [takeRows_apply, bind_apply, changing]
  rcases p.extract (p.source e) tag dataFile mode s.tree with ⟨_ | n, t⟩ <;> exact ⟨rfl, rfl⟩

/-- A script is rendered by one call of the renderer, which is recorded first. -/
theorem renderScript_apply (script output : String) (s : RunState) :
    p.renderScript script output s =
      changing (p.render (s.journal.countP Event.isRendering) script output)
        { s with journal := s.journal ++ [.rendering script output s.tree] } := rfl

/-- The call of the renderer that a step makes. -/
def Step.call? (t : FileTree) : Step → Option RenderCall
  | .render script output => some ⟨script, output, t⟩
  | _ => none

theorem Step.output?_call? (step : Step) (t : FileTree) :
    (step.call? t).map (·.output) = step.output? := by
  cases step <;> rfl

theorem perform_calls (step : Step) (s : RunState) :
    Calls (p.perform step) s (step.call? s.tree).toList := by
  cases step with
  | log level message => exact calls_log ..
  | createFile path => exact calls_changing ..
  | takeRows tag mode dataFile e =>
    have h := (@calls_record (.extracting (p.source e) tag dataFile mode s.tree)
      (fun _ => by simp) s).bind fun _ s' _ =>
        (calls_changing (p.extract (p.source e) tag dataFile mode) s').bind fun rows _ _ =>
          calls_log .trace .extraction ("extracted " ++ toString rows ++ " " ++ tag ++
            " rows from " ++ p.source e ++ " into " ++ dataFile) _
    exact h
  | createPlotsDir => exact calls_changing ..
  | render script output =>
    have h : Calls (p.perform (.render script output)) s
        (renderCalls [.rendering script output s.tree]) :=
      (calls_record (fun _ => by simp) s).bind fun _ s' _ => calls_changing _ s'
    exact h

/-- The steps of a list are tried in order up to the first that fails, so that the calls of the
renderer are those of an initial part of the list, and of all of it if no step fails. -/
theorem performAll_adds (steps : List Step) (s : RunState) :
    ∃ events, Adds (p.performAll steps) s events ∧
      (renderCalls events).map (·.output) <+: steps.filterMap Step.output? ∧
      ((∃ s', p.performAll steps s = (.ok (), s')) →
        (renderCalls events).map (·.output) = steps.filterMap Step.output?) := by
  induction steps generalizing s with
  | nil => exact ⟨[], adds_pure () s, by simp [renderCalls], by simp [renderCalls]⟩
  | cons step rest ih =>
    obtain ⟨events, ha, hc⟩ := p.perform_calls step s
    have ho : (renderCalls events).map (·.output) = step.output?.toList := by
      rw [hc, ← step.output?_call? s.tree]
      cases step.call? s.tree <;> rfl
    have hsteps : (step :: rest).filterMap Step.output? =
        step.output?.toList ++ rest.filterMap Step.output? := by
      cases hs : step.output? <;> simp [hs]
    rcases hp : p.perform step s with ⟨e | u, s'⟩
    · refine ⟨events ++ [], ha.bind (fun _ _ h => ?_) (fun _ _ _ => rfl), ?_, ?_⟩
      · rw [hp] at h
        cases h
      · rw [List.append_nil, ho, hsteps]
        exact List.prefix_append ..
      · rintro ⟨s'', h⟩
        rw [performAll, bind_apply, hp] at h
        cases h
    · obtain ⟨more, ha', hpre, hall⟩ := ih s'
      refine ⟨events ++ more, ha.bind (fun _ _ h => ?_) (fun _ _ h => ?_), ?_, ?_⟩
      · rw [hp] at h
        cases h
        exact ha'
      · rw [hp] at h
        cases h
      · rw [renderCalls_append, List.map_append, ho, hsteps]
        exact (List.prefix_append_right_inj _).2 hpre
      · rintro ⟨s'', h⟩
        rw [performAll, bind_apply, hp] at h
        rw [renderCalls_append, List.map_append, ho, hsteps, hall ⟨s'', h⟩]

theorem performAll_append_apply {a b : List Step} {s s' : RunState}
    (h : p.performAll a s = (.ok (), s')) : p.performAll (a ++ b) s = p.performAll b s' := by
  rw [performAll_append, bind_apply, h]

theorem performAll_append_ok {a b : List Step} {s s' : RunState}
    (h : p.performAll (a ++ b) s = (.ok (), s')) :
    ∃ s₁, p.performAll a s = (.ok (), s₁) ∧ p.performAll b s₁ = (.ok (), s') := by
  rw [performAll_append, bind_apply] at h
  rcases ha : p.performAll a s with ⟨e | u, s₁⟩ <;> rw [ha] at h
  · cases h
  · exact ⟨s₁, rfl, h⟩

theorem performAll_cons_ok {step : Step} {rest : List Step} {s s' : RunState}
    (h : p.performAll (step :: rest) s = (.ok (), s')) :
    ∃ s₁, p.perform step s = (.ok (), s₁) ∧ p.performAll rest s₁ = (.ok (), s') := by
  rw [← List.singleton_append] at h
  simpa only [performAll_singleton] using p.performAll_append_ok h

/-- A call of the renderer that fails ends the steps. -/
theorem performAll_render_error {script output : String} {rest : List Step} {s : RunState}
    {e : Failure}
    (h : (p.render (s.journal.countP Event.isRendering) script output s.tree).1 = .error e) :
    (p.performAll (.render script output :: rest) s).1 = .error e := by
  have hperform : (p.perform (.render script output) s).1 = .error e := by
    show (changing (p.render (s.journal.countP Event.isRendering) script output)
      { s with journal := s.journal ++ [.rendering script output s.tree] }).1 = .error e
    rw [changing]
    rcases hr : p.render (s.journal.countP Event.isRendering) script output s.tree with ⟨e' | u, t⟩
    · rw [hr] at h
      exact h
    · rw [hr] at h
      cases h
  rw [performAll, bind_apply]
  rcases hr : p.perform (.render script output) s with ⟨e' | u, s'⟩ <;> rw [hr] at hperform
  · exact hperform
  · cases hperform

/-- When the renderer is called, all steps before the call have succeeded, and the calls made by
then are the earlier ones. -/
theorem exists_step_of_call {steps : List Step} {s : RunState} {events : List Event} {k : Nat}
    {c : RenderCall} (h : (p.performAll steps s).2.journal = s.journal ++ events)
    (hk : (renderCalls events)[k]? = some c) :
    ∃ before after s' earlier, steps = before ++ .render c.script c.output :: after ∧
      p.performAll before s = (.ok (), s') ∧ s'.tree = c.tree ∧
      s'.journal = s.journal ++ earlier ∧ renderCalls earlier = (renderCalls events).take k := by
  induction steps generalizing s events k with
  | nil =>
    have : events = [] := by simpa [performAll, RunM.pure_apply] using h.symm
    simp [this, renderCalls] at hk
  | cons step rest ih =>
    obtain ⟨first, ⟨hj, hf⟩, hc⟩ := p.perform_calls step s
    -- either the call is that of the first step, or a later one after the first step succeeded
    have key : ∀ more, events = first ++ more → (step.call? s.tree = some c ∧ k = 0) ∨
        ∃ k', (renderCalls more)[k']? = some c ∧
          (renderCalls events).take k = renderCalls first ++ (renderCalls more).take k' := by
      rintro more rfl
      rw [renderCalls_append, hc] at hk ⊢
      cases hs : step.call? s.tree with
      | none => exact .inr ⟨k, by simpa [hs] using hk, by simp⟩
      | some c' =>
        cases k with
        | zero => exact .inl ⟨by simpa [hs] using hk, rfl⟩
        | succ k => exact .inr ⟨k, by simpa [hs] using hk, by simp⟩
    have hfirst : step.call? s.tree = some c → k = 0 →
        ∃ before after s' earlier, step :: rest = before ++ .render c.script c.output :: after ∧
          p.performAll before s = (.ok (), s') ∧ s'.tree = c.tree ∧
          s'.journal = s.journal ++ earlier ∧
          renderCalls earlier = (renderCalls events).take k := by
      rintro hs rfl
      cases step with
      | render script output =>
        cases hs
        exact ⟨[], rest, s, [], rfl, rfl, rfl, by simp, by simp [renderCalls]⟩
      | _ => cases hs
    rcases hp : p.perform step s with ⟨e | u, s₁⟩
    · rw [performAll, bind_apply, hp] at h
      rw [hp] at hj
      have he : events = first ++ [] := by
        rw [List.append_nil]
        exact List.append_cancel_left (h.symm.trans hj)
      rcases key [] he with ⟨hs, hk0⟩ | ⟨k', hk', -⟩
      · exact hfirst hs hk0
      · simp [renderCalls] at hk'
    · rw [performAll, bind_apply, hp] at h
      rw [hp] at hj
      obtain ⟨more, ⟨hm, -⟩, -⟩ := p.performAll_adds rest s₁
      have he : events = first ++ more := events_eq_append h hj hm
      rcases key more he with ⟨hs, hk0⟩ | ⟨k', hk', htake⟩
      · exact hfirst hs hk0
      · obtain ⟨before, after, s', earlier, rfl, hb, ht, hj', hcalls⟩ := ih hm hk'
        refine ⟨step :: before, after, s', first ++ earlier, rfl, ?_, ht, ?_, ?_⟩
        · rw [performAll, bind_apply, hp]
          exact hb
        · rw [hj', hj, List.append_assoc]
        · rw [renderCalls_append, hcalls, htake]

/-- A call of the renderer that fails ends the steps, wherever it is among them. -/
theorem performAll_call_error {steps : List Step} {s : RunState} {events : List Event}
    (h : (p.performAll steps s).2.journal = s.journal ++ events) {k : Nat} {c : RenderCall}
    (hk : (renderCalls events)[k]? = some c) {e : Failure}
    (he : (p.render (s.journal.countP Event.isRendering + k) c.script c.output c.tree).1 =
      .error e) : (p.performAll steps s).1 = .error e := by
  obtain ⟨before, after, s', earlier, rfl, hb, ht, hj, hearlier⟩ := p.exists_step_of_call h hk
  have hlen : (renderCalls earlier).length = k := by
    have := (List.getElem?_eq_some_iff.1 hk).1
    rw [hearlier, List.length_take]
    omega
  have hcount : s'.journal.countP Event.isRendering = s.journal.countP Event.isRendering + k := by
    rw [hj, List.countP_append, countP_isRendering earlier, hlen]
  rw [p.performAll_append_apply hb]
  exact p.performAll_render_error (by rw [hcount, ht]; exact he)

/-! ## Calls of the extractor -/

/-- If a call of the extractor among the events fails, the result is its failure. -/
def Heeds (events : List Event) (result : Except Failure Unit) : Prop :=
  ∀ source tag dest mode tree, .extracting source tag dest mode tree ∈ events →
    ∀ e, (p.extract source tag dest mode tree).1 = .error e → result = .error e

theorem heeds_of_not_extracting {events : List Event} (result : Except Failure Unit)
    (h : ∀ source tag dest mode tree, .extracting source tag dest mode tree ∉ events) :
    p.Heeds events result :=
  fun source tag dest mode tree hmem => absurd hmem (h source tag dest mode tree)

theorem heeds_extracting {source tag dest : String} {mode : WriteMode} {tree : FileTree}
    {more : List Event} {result : Except Failure Unit}
    (hmore : ∀ source tag dest mode tree, .extracting source tag dest mode tree ∉ more)
    (hcall : ∀ e, (p.extract source tag dest mode tree).1 = .error e → result = .error e) :
    p.Heeds (.extracting source tag dest mode tree :: more) result := by
  intro source' tag' dest' mode' tree' hmem
  rcases List.mem_cons.1 hmem with heq | hmem
  · cases heq
    exact hcall
  · exact absurd hmem (hmore source' tag' dest' mode' tree')

/-- A step that changes files by an operation does not call the extractor for it. -/
theorem changing_heeds (op : FileTree → Except Failure Unit × FileTree) (s : RunState) :
    ∃ events, (changing op s).2.journal = s.journal ++ events ∧
      p.Heeds events (changing op s).1 := by
  refine ⟨_, (adds_changing op s).1, p.heeds_of_not_extracting _ fun _ _ _ _ _ => ?_⟩
  split <;> simp

theorem perform_heeds (step : Step) (s : RunState) :
    ∃ events, (p.perform step s).2.journal = s.journal ++ events ∧
      p.Heeds events (p.perform step s).1 := by
  cases step with
  | log level message => exact ⟨_, rfl, p.heeds_of_not_extracting _ (by simp)⟩
  | createFile path => exact p.changing_heeds _ s
  | createPlotsDir => exact p.changing_heeds _ s
  | render script output =>
    obtain ⟨events, hj, hheeds⟩ := p.changing_heeds
      (p.render (s.journal.countP Event.isRendering) script output)
      { s with journal := s.journal ++ [.rendering script output s.tree] }
    refine ⟨.rendering script output s.tree :: events, ?_, ?_⟩
    · rw [perform, renderScript_apply, hj, List.append_assoc, List.singleton_append]
    · intro source tag dest mode tree hmem
      exact hheeds source tag dest mode tree (List.mem_of_ne_of_mem (by simp) hmem)
  | takeRows tag mode dataFile e =>
    rw [perform, takeRows_apply, bind_apply, changing]
    rcases hr : p.extract (p.source e) tag dataFile mode s.tree with ⟨cause | rows, t⟩
    · refine ⟨[.extracting (p.source e) tag dataFile mode s.tree, .failed cause], by simp, ?_⟩
      refine p.heeds_extracting (by simp) fun e' he' => ?_
      rw [hr] at he'
      exact congrArg Except.error (Except.error.inj he')
    · refine ⟨_, List.append_assoc s.journal [_] [_], ?_⟩
      refine p.heeds_extracting (by simp) fun e' he' => ?_
      rw [hr] at he'
      cases he'

theorem performAll_heeds (steps : List Step) (s : RunState) :
    ∃ events, (p.performAll steps s).2.journal = s.journal ++ events ∧
      p.Heeds events (p.performAll steps s).1 := by
  induction steps generalizing s with
  | nil => exact ⟨[], (List.append_nil _).symm, p.heeds_of_not_extracting _ (by simp)⟩
  | cons step rest ih =>
    obtain ⟨events, hj, hheeds⟩ := p.perform_heeds step s
    rw [performAll, bind_apply]
    rcases hp : p.perform step s with ⟨e | u, s'⟩
    · rw [hp] at hj hheeds
      exact ⟨events, hj, hheeds⟩
    · rw [hp] at hj hheeds
      obtain ⟨more, hj', hheeds'⟩ := ih s'
      refine ⟨events ++ more, by rw [hj', hj, List.append_assoc], ?_⟩
      intro source tag dest mode tree hmem e he
      rcases List.mem_append.1 hmem with hmem | hmem
      · exact absurd (hheeds source tag dest mode tree hmem e he) (by simp)
      · exact hheeds' source tag dest mode tree hmem e he

/-- A call of the extractor that fails ends the steps, wherever it is among them. -/
theorem heeds_of_performAll {steps : List Step} {s : RunState} {events : List Event}
    (h : (p.performAll steps s).2.journal = s.journal ++ events) :
    p.Heeds events (p.performAll steps s).1 := by
  obtain ⟨added, hj, hheeds⟩ := p.performAll_heeds steps s
  rwa [List.append_cancel_left (h.symm.trans hj)]

end Plotter

end SweepPlot
