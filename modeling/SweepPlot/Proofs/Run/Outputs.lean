import SweepPlot.Proofs.Run.Steps

/-!
# The plots that a run makes

`Plotter.plots` lists the plots of a variant: one for each grouping that something matches, or for
each grouping at all if empty plots are made too. The calls of the renderer follow this list and
stop only at a failure (`plotVariant_outputs`).
-/

namespace SweepPlot.Plotter

open RunM

variable (p : Plotter) (v : Variant) (results : ResultSet) (dir : String)

/-- The step writes a data file: what comes after the directory starts with the name `a` and an
underscore. -/
def Step.IsData (a dir : String) : Step → Prop
  | .createFile path | .takeRows _ _ path _ => ∃ b, path = Path.join dir (a ++ "_" ++ b)
  | _ => False

theorem isData_of_mem_dataSteps {g : Constraints} :
    ∀ step ∈ dataSteps v results dir g, step.IsData v.name dir := by
  intro step hstep
  unfold dataSteps entrySteps groupSteps at hstep
  split at hstep
  · obtain ⟨e, -, rfl⟩ := List.mem_map.1 hstep
    exact ⟨e.filename, rfl⟩
  · obtain ⟨value, -, hstep⟩ := List.mem_flatMap.1 hstep
    rcases List.mem_cons.1 hstep with rfl | hstep
    · exact ⟨_, rfl⟩
    · obtain ⟨e, -, rfl⟩ := List.mem_map.1 hstep
      exact ⟨_, rfl⟩

theorem dataSteps_output (g : Constraints) :
    (dataSteps v results dir g).filterMap Step.output? = [] := by
  rw [List.filterMap_eq_nil_iff]
  intro step hstep
  have hdata := isData_of_mem_dataSteps v results dir step hstep
  cases step with
  | createFile | takeRows => rfl
  | log | createPlotsDir | render => exact hdata.elim

/-- The steps for a grouping make its plot, if it has one and the run is not dry. -/
theorem groupingSteps_output (g : Constraints) :
    (groupingSteps p v results dir g).filterMap Step.output? =
      if v.hasPlot results g && !p.dryRun then [p.context.outputPath v.name g] else [] := by
  rw [groupingSteps, List.cons_append, List.filterMap_cons_none rfl, List.filterMap_append,
    dataSteps_output, List.nil_append, plotSteps]
  cases v.hasPlot results g <;> cases p.dryRun <;> rfl

theorem flatMap_groupingSteps_output (hp : p.dryRun = false) (gs : List Constraints) :
    (gs.flatMap (groupingSteps p v results dir)).filterMap Step.output? =
      (gs.filter (v.hasPlot results)).map (p.context.outputPath v.name) := by
  induction gs with
  | nil => rfl
  | cons g rest ih =>
    rw [List.flatMap_cons, List.filterMap_append, ih, groupingSteps_output, hp]
    cases hg : v.hasPlot results g <;> simp [hg]

theorem variantSteps_output (hp : p.dryRun = false) :
    (variantSteps p v results dir).filterMap Step.output? = plots p v results :=
  flatMap_groupingSteps_output p v results dir hp _

/-- **The plots of a run.** The renderer is called for the plots of the variant in order. A run
succeeds exactly if no step fails; then the renderer was called once for each plot, and the result
lists them. The first step that fails ends the run with its failure. A scratch directory that cannot
be made is such a step, and so are a call of the extractor and a call of the renderer that fail on
the files as they were at that moment. -/
theorem plotVariant_outputs (hp : p.dryRun = false) (s : RunState) :
    ∃ events, (p.plotVariant results v s).2.journal = s.journal ++ events ∧
      (renderCalls events).map (·.output) <+: plots p v results ∧
      ((∃ outputs, (p.plotVariant results v s).1 = .ok outputs) ↔ ∀ e, .failed e ∉ events) ∧
      (∀ outputs, (p.plotVariant results v s).1 = .ok outputs →
        (renderCalls events).map (·.output) = plots p v results ∧
          outputs = plots p v results) ∧
      (∀ e, .failed e ∈ events → (p.plotVariant results v s).1 = .error e ∧
        ∃ before, events = before ++ [.failed e] ∧ ∀ e', .failed e' ∉ before) ∧
      (∀ e, (p.makeScratch v s.tree).1 = .error e → (p.plotVariant results v s).1 = .error e) ∧
      (∀ source tag dest mode tree, .extracting source tag dest mode tree ∈ events →
        ∀ e, (p.extract source tag dest mode tree).1 = .error e →
          (p.plotVariant results v s).1 = .error e) ∧
      ∀ k call, (renderCalls events)[k]? = some call →
        ∀ e, (p.render (s.journal.countP Event.isRendering + k) call.script call.output
          call.tree).1 = .error e → (p.plotVariant results v s).1 = .error e := by
  rcases hm : p.makeScratch v s.tree with ⟨e | ⟨dir, loc⟩, t⟩
  · rw [plotVariant_of_error p v results hm]
    have hf : Faithful (.error e : Except Failure (List String)) [.failed e] := ⟨[], rfl, by simp⟩
    refine ⟨[.failed e], rfl, List.nil_prefix, hf.ok_iff, ?_, fun _ => hf.of_failed, ?_, ?_, ?_⟩
    · intro outputs h
      cases h
    · intro e' he'
      exact congrArg Except.error (Except.error.inj he')
    · intro source tag dest mode tree hmem
      simp at hmem
    · intro k call hk
      simp [renderCalls] at hk
  · rw [plotVariant_of_ok p v results hm]
    obtain ⟨events, ⟨hj, hf⟩, hpre, hall⟩ :=
      p.performAll_adds (variantSteps p v results dir) ⟨t, s.journal⟩
    rw [variantSteps_output p v results dir hp] at hpre hall
    have hf := hf.map fun _ => plots p v results
    refine ⟨events, hj, hpre, hf.ok_iff, ?_, fun _ => hf.of_failed, ?_, ?_, ?_⟩
    · intro outputs h
      rcases hr : p.performAll (variantSteps p v results dir) ⟨t, s.journal⟩ with ⟨e | u, s'⟩
      · rw [hr] at h
        cases h
      · rw [hr] at h
        cases h
        exact ⟨hall ⟨s', hr⟩, rfl⟩
    · intro e he
      cases he
    · intro source tag dest mode tree hmem e he
      rw [p.heeds_of_performAll hj source tag dest mode tree hmem e he]
      rfl
    · intro k call hk e he
      rw [p.performAll_call_error hj hk he]
      rfl

/-- Two results of one experiment. -/
def sampleResults : ResultSet where
  label := "b"
  entries := [⟨"b_n=1", .ofList [("n", .int 1)]⟩, ⟨"b_n=2", .ofList [("n", .int 2)]⟩]
  parsed e he := by
    rcases List.mem_cons.1 he with rfl | he
    · rfl
    · cases List.mem_singleton.1 he
      rfl

/-- The files of these results, and a directory for scratch directories. -/
def sampleTree : FileTree where
  nodes :=
    let dir : Location := [.text "r", .text "1", .text "x"]
    [([.text "t"], .dir), ([.text "r"], .dir), ([.text "r", .text "1"], .dir), (dir, .dir),
      (dir ++ [.text "b_n=1"], .file (Text.Utf8.encode "0\tLATENCYFRACTION\t5\t0.5\n")),
      (dir ++ [.text "b_n=2"], .file (Text.Utf8.encode "0\tLATENCYFRACTION\t7\t0.5\n"))]
  workDir := []

/-- Plots the results with a renderer. -/
def samplePlotter (render : Renderer) : Plotter where
  context := ⟨"/r", "/p", "1", "x"⟩
  scratch := ⟨"/t", ["0"]⟩
  extract := Extraction.extract
  render := render
  dryRun := false

/-- One plot for each value of a parameter. -/
def sampleVariant : Variant := (Variant.named "v").across (.discovered "n")

/-- A renderer that fails from its second call on. -/
def failingRender : Renderer := fun n _ output t =>
  if n = 0 then (.ok (), t) else (.error (.render output (.script (.os .brokenPipe))), t)

/-- A run whose second plot fails has that failure, and both plots were tried. -/
theorem plotVariant_outputs_failing : (samplePlotter failingRender).dryRun = false ∧
    ∃ s, (samplePlotter failingRender).plotVariant sampleResults sampleVariant ⟨sampleTree, []⟩ =
      (.error (.render "/p/1/x/v_n=2.pdf" (.script (.os .brokenPipe))), s) ∧
      ((renderCalls s.journal).map (·.output) <+: ["/p/1/x/v_n=1.pdf", "/p/1/x/v_n=2.pdf"]) := by
  have hdry : (samplePlotter failingRender).dryRun = false := rfl
  obtain ⟨events, hj, hpre, -, -, -, -, -, hcall⟩ :=
    plotVariant_outputs (samplePlotter failingRender) sampleVariant sampleResults hdry
      ⟨sampleTree, []⟩
  rw [List.nil_append] at hj
  have hplots : plots (samplePlotter failingRender) sampleVariant sampleResults =
      ["/p/1/x/v_n=1.pdf", "/p/1/x/v_n=2.pdf"] := by decide +kernel
  have hsecond : (((renderCalls ((samplePlotter failingRender).plotVariant sampleResults
      sampleVariant ⟨sampleTree, []⟩).2.journal)[1]?).map (·.output)) =
        some "/p/1/x/v_n=2.pdf" := by decide +kernel
  obtain ⟨call, hk, houtput⟩ := Option.map_eq_some_iff.1 hsecond
  rw [hj] at hk
  have hfail := hcall 1 call hk (.render call.output (.script (.os .brokenPipe))) rfl
  refine ⟨hdry, _, Prod.ext (houtput ▸ hfail) rfl, ?_⟩
  rwa [hj, ← hplots]

end SweepPlot.Plotter
