import SweepPlot.Proofs.Run.DataFiles
import SweepPlot.Proofs.Run.Outputs

/-!
# The files when the renderer is called

The calls of the renderer belong to the groupings that have a plot, in order. Between them the
result files stay as they were when the run started, if the renderer writes nothing but plots.

* `Renderer.WritesOutputOnly` is what is asked of a renderer; one that runs a program has it
  (`PlottingProgram.renderer_writesOutputOnly`).
* `exists_grouping_of_call` says which steps come right before a call, and
  `exists_scratch_of_call` that they are performed in a scratch directory.
* `Ongoing` is what holds of the files throughout a run: `perform_ongoing` for one step and
  `performAll_ongoing` for all of them.
* `exists_dataSteps_of_call` puts both together: a call comes after the steps that write the data
  files of its grouping, performed on an ongoing run.
-/

namespace SweepPlot

open FileTree

/-- A renderer that succeeds has changed nothing but the file at the path of the plot. -/
def Renderer.WritesOutputOnly (render : Renderer) : Prop :=
  ∀ n script output t t', render n script output t = (.ok (), t') →
    ChangesFiles (fun k => ∃ s, t.locate .target output = .ok s ∧ s.location = k) t t'

/-- Opening a file for writing and writing to it changes nothing but this file. -/
theorem FileTree.openWrite_changesFiles {t t₁ t₂ : FileTree} {truncate : Bool} {path : String}
    {loc : Location} (h : t.openWrite truncate path = .ok (loc, t₁)) (h₂ : Agree (· = loc) t₁ t₂)
    (hl₂ : t₂.lookup loc = t₁.lookup loc ∨ ∃ content, t₂.lookup loc = some (.file content)) :
    ChangesFiles (fun k => ∃ s, t.locate .target path = .ok s ∧ s.location = k) t t₂ := by
  obtain ⟨s, hs, rfl, -, hagree, hcase⟩ := openWrite_spec h
  have htarget : t.locate .target path = .ok s := by
    obtain ⟨hv, hw⟩ := locate_eq_ok_iff.1 hs
    exact locate_eq_ok_iff.2 ⟨hv, hw.target_of_writing⟩
  have hagree' := hagree.trans h₂
  refine ⟨hagree'.workDir, fun k => ?_⟩
  by_cases hk : k = s.location
  · subst hk
    have hleaf : IsLeaf (t.lookup s.location) := by
      rcases hcase with ⟨hl, -⟩ | ⟨content, hl, -⟩ | ⟨d, hl, -⟩ <;> rw [hl]
      · exact isLeaf_none
      · exact isLeaf_file content
      · exact isLeaf_device d
    rcases hl₂ with hl₂ | hfile
    · rcases hcase with ⟨-, hl'⟩ | ⟨content, -, hl'⟩ | ⟨d, hl, hl'⟩
      · exact .inr ⟨⟨s, htarget, rfl⟩, hleaf, .inr ⟨_, hl₂.trans hl'⟩⟩
      · exact .inr ⟨⟨s, htarget, rfl⟩, hleaf, .inr ⟨_, hl₂.trans hl'⟩⟩
      · exact .inl (by rw [hl₂, hl', hl])
    · exact .inr ⟨⟨s, htarget, rfl⟩, hleaf, .inr hfile⟩
  · exact .inl (hagree'.lookup k hk)

theorem FileTree.lookup_append_self (t : FileTree) (loc : Location) (bytes : Bytes) :
    (t.append loc bytes).lookup loc = t.lookup loc ∨
      ∃ content, (t.append loc bytes).lookup loc = some (.file content) := by
  rcases hl : t.lookup loc with _ | ⟨content | _ | target | d⟩
  case some.file => exact .inr ⟨_, (append_spec hl bytes).2⟩
  all_goals
    rw [append, content?, hl]
    exact .inl hl

/-- The renderer that runs a program changes nothing but the plot. -/
theorem PlottingProgram.renderer_writesOutputOnly (p : PlottingProgram) (programs : Programs) :
    Renderer.WritesOutputOnly (p.renderer programs) := by
  intro n script output t t' h
  unfold renderer render at h
  split at h
  · rename_i hrun
    cases h
    unfold run at hrun
    split at hrun
    · cases hrun
    · rename_i loc t₁ ho
      split at hrun
      · cases hrun
      · rename_i start hs
        obtain ⟨-, rfl⟩ := Prod.mk.inj hrun
        exact openWrite_changesFiles ho (append_agree _ _ _) (lookup_append_self _ _ _)
  · split at h <;> cases h

namespace Plotter

open RunM

variable (p : Plotter) (v : Variant) (results : ResultSet) (dir : String)

/-! ## The grouping of a call -/

/-- Two ways to cut a list at an element of a kind are the same if there is only one of the
kind. -/
theorem split_unique {α : Type} {P : α → Prop} {a a' b b' : List α} {x y : α}
    (h : a ++ x :: b = a' ++ y :: b') (ha : ∀ z ∈ a, ¬ P z) (hb : ∀ z ∈ b, ¬ P z) (hy : P y) :
    a = a' ∧ x = y ∧ b = b' := by
  induction a generalizing a' with
  | nil =>
    cases a' with
    | nil =>
      obtain ⟨rfl, rfl⟩ := List.cons.inj h
      exact ⟨rfl, rfl, rfl⟩
    | cons z a' =>
      have hmem : y ∈ b := by
        rw [(List.cons.inj h).2]
        simp
      exact absurd hy (hb y hmem)
  | cons z a ih =>
    cases a' with
    | nil =>
      have hzy : z = y := (List.cons.inj h).1
      exact absurd hy (hzy ▸ ha z List.mem_cons_self)
    | cons z' a' =>
      obtain ⟨rfl, h'⟩ := List.cons.inj h
      obtain ⟨rfl, hxy, hb'⟩ := ih h' fun z hz => ha z (List.mem_cons_of_mem _ hz)
      exact ⟨rfl, hxy, hb'⟩

/-- An element of joined lists stands in one of them, after those before. -/
theorem flatMap_eq_append_cons {α β : Type} {f : α → List β} {l : List α} {b a : List β} {x : β}
    (h : l.flatMap f = b ++ x :: a) :
    ∃ l₁ y l₂ b' a', l = l₁ ++ y :: l₂ ∧ b = l₁.flatMap f ++ b' ∧ f y = b' ++ x :: a' ∧
      a = a' ++ l₂.flatMap f := by
  induction l generalizing b with
  | nil => simp at h
  | cons y l ih =>
    have hlater : ∀ b'', b = f y ++ b'' → l.flatMap f = b'' ++ x :: a →
        ∃ l₁ y' l₂ b' a', y :: l = l₁ ++ y' :: l₂ ∧ b = l₁.flatMap f ++ b' ∧
          f y' = b' ++ x :: a' ∧ a = a' ++ l₂.flatMap f := by
      rintro b'' rfl h
      obtain ⟨l₁, y', l₂, b', a', rfl, rfl, hf, rfl⟩ := ih h
      exact ⟨y :: l₁, y', l₂, b', a', rfl, by simp, hf, rfl⟩
    rw [List.flatMap_cons] at h
    rcases List.append_eq_append_iff.1 h with ⟨b'', hb, h⟩ | ⟨c, hf, hc⟩
    · exact hlater b'' hb h
    · cases c with
      | nil => exact hlater [] (by simpa using hf.symm) hc.symm
      | cons z c =>
        obtain ⟨rfl, rfl⟩ := List.cons.inj hc
        exact ⟨[], y, l, b, c, rfl, rfl, hf, rfl⟩

/-- The steps for a grouping up to the call of the renderer. -/
def stepsToCall (g : Constraints) : List Step :=
  .log .info (v.name ++ ": " ++ g.display) :: (dataSteps v results dir g ++
    [.log .debug (Text.trimEnd Text.isWhiteSpace (scriptOf v results dir g).text),
      .createPlotsDir])

theorem stepsToCall_output (g : Constraints) :
    (stepsToCall v results dir g).filterMap Step.output? = [] := by
  rw [stepsToCall, List.filterMap_cons_none rfl, List.filterMap_append, dataSteps_output]
  rfl

/-- If the renderer is called in the steps for a grouping, it is called for the plot of the
grouping. -/
theorem groupingSteps_eq_append_render {g : Constraints} {before after : List Step}
    {script output : String}
    (h : groupingSteps p v results dir g = before ++ .render script output :: after) :
    p.dryRun = false ∧ v.hasPlot results g = true ∧ before = stepsToCall v results dir g ∧
      script = (scriptOf v results dir g).text ∧ output = p.context.outputPath v.name g := by
  have hplot : (v.hasPlot results g && !p.dryRun) = true := by
    refine Decidable.byContradiction fun hno => ?_
    have hnone := groupingSteps_output p v results dir g
    rw [if_neg hno, h, List.filterMap_append] at hnone
    simp [Step.output?] at hnone
  obtain ⟨hplot, hdry⟩ : v.hasPlot results g = true ∧ p.dryRun = false := by simpa using hplot
  have heq : groupingSteps p v results dir g = stepsToCall v results dir g ++
      .render (scriptOf v results dir g).text (p.context.outputPath v.name g) ::
        [.log .info (p.context.outputPath v.name g)] := by
    unfold groupingSteps plotSteps stepsToCall
    rw [if_pos hplot, hdry]
    simp
  have hno : ∀ step ∈ stepsToCall v results dir g, ¬ (step.output? ≠ none) := fun step hstep =>
    not_not_intro (List.filterMap_eq_nil_iff.1 (stepsToCall_output v results dir g) step hstep)
  rw [heq] at h
  obtain ⟨hb, hr, -⟩ := split_unique h hno (by simp [Step.output?]) (by simp [Step.output?])
  obtain ⟨rfl, rfl⟩ := Step.render.inj hr
  exact ⟨hdry, hplot, hb.symm, rfl, rfl⟩

/-- The calls are those for the groupings with a plot in order, and before a call come the steps
for the groupings before and those of its own one. -/
theorem exists_grouping_of_call {s : RunState} {events : List Event} {k : Nat} {c : RenderCall}
    (h : (p.performAll (variantSteps p v results dir) s).2.journal = s.journal ++ events)
    (hk : (renderCalls events)[k]? = some c) :
    ∃ g, ∃ earlier : List Constraints, ∃ s₁ s₂, (v.plottedGroupings results)[k]? = some g ∧
      c.output = p.context.outputPath v.name g ∧ c.script = (scriptOf v results dir g).text ∧
      (∀ g' ∈ earlier, g' ∈ v.groupings results) ∧
      p.performAll (earlier.flatMap (groupingSteps p v results dir)) s = (.ok (), s₁) ∧
      p.performAll (stepsToCall v results dir g) s₁ = (.ok (), s₂) ∧ s₂.tree = c.tree ∧
      ∃ events₂, s₂.journal = s.journal ++ events₂ ∧ renderCalls events₂ =
        (renderCalls events).take k := by
  obtain ⟨before, after, s₂, events₂, hsteps, hb, ht, hj, hcalls⟩ := p.exists_step_of_call h hk
  obtain ⟨earlier, g, later, before', after', hgs, rfl, hg, -⟩ := flatMap_eq_append_cons hsteps
  obtain ⟨hdry, hplot, rfl, hscript, houtput⟩ := groupingSteps_eq_append_render p v results dir hg
  obtain ⟨s₁, h₁, h₂⟩ := p.performAll_append_ok hb
  have hlen : (earlier.filter (v.hasPlot results)).length = k := by
    obtain ⟨events', ha, -, hall⟩ := p.performAll_adds _ s
    have hevents : events' = events₂ :=
      List.append_cancel_left ((ha.of_ok hb).1.symm.trans hj)
    have houtputs := hall ⟨s₂, hb⟩
    rw [hevents, hcalls, List.filterMap_append, flatMap_groupingSteps_output p v results dir hdry,
      stepsToCall_output, List.append_nil] at houtputs
    have := congrArg List.length houtputs
    rw [List.length_map, List.length_map, List.length_take] at this
    have := (List.getElem?_eq_some_iff.1 hk).1
    omega
  refine ⟨g, earlier, s₁, s₂, ?_, houtput, hscript, ?_, h₁, h₂, ht, events₂, hj, hcalls⟩
  · rw [Variant.plottedGroupings, hgs, List.filter_append, List.filter_cons_of_pos hplot,
      List.getElem?_append_right (by omega), hlen]
    simp
  · intro g' hg'
    rw [hgs]
    exact List.mem_append_left _ hg'

/-- A run that calls the renderer has a scratch directory and performs its steps there. -/
theorem exists_scratch_of_call {s : RunState} {events : List Event}
    (hj : (p.plotVariant results v s).2.journal = s.journal ++ events) {k : Nat} {c : RenderCall}
    (hk : (renderCalls events)[k]? = some c) :
    ∃ dir loc t, p.makeScratch v s.tree = (.ok (dir, loc), t) ∧
      (p.performAll (variantSteps p v results dir) ⟨t, s.journal⟩).2.journal =
        s.journal ++ events := by
  rcases hm : p.makeScratch v s.tree with ⟨e | ⟨dir, loc⟩, t⟩
  · rw [plotVariant_of_error p v results hm] at hj
    have : events = [.failed e] := (List.append_cancel_left hj).symm
    simp [this, renderCalls] at hk
  · rw [plotVariant_of_ok p v results hm] at hj
    exact ⟨dir, loc, t, rfl, hj⟩

/-! ## The files throughout a run -/

/-- The files in a run that started with `t₀` and uses a scratch directory: the results that could
be read at the start read the same. -/
structure Ongoing (t₀ : FileTree) (dir : String) (loc : Location) (t : FileTree) : Prop where
  scratch : Scratch t₀ dir loc t
  kept : ∀ e ∈ results.entries, ∀ content, t₀.read (p.source e) = .ok content →
    t.ReadsOutside loc (p.source e) content

/-- The plot of a call is none of the results. -/
def SparesResults (call : RenderCall) : Prop :=
  ∀ e ∈ results.entries, ¬ call.tree.SamePlace call.output (p.source e)

instance (call : RenderCall) : Decidable (SparesResults p results call) :=
  inferInstanceAs (Decidable
    (∀ e ∈ results.entries, ¬ call.tree.SamePlace call.output (p.source e)))

/-- The step writes to no other directory. -/
def Step.WritesIn (dir : String) : Step → Prop
  | .createFile path | .takeRows _ _ path _ => ∃ x, IsName x ∧ path = Path.join dir x
  | _ => True

variable {p v results dir} {t₀ t t' : FileTree} {loc : Location} {s s' : RunState}

namespace Ongoing

theorem fills {x : String} (h : Ongoing p results t₀ dir loc t) (hs : Scratch t₀ dir loc t')
    (ht : Grows (· = loc ++ [.text x]) t t') : Ongoing p results t₀ dir loc t' :=
  ⟨hs, fun e he content hc => (h.kept e he content hc).grows ht prefix_of_eq_child⟩

theorem addsDirs (h : Ongoing p results t₀ dir loc t) (ht : AddsDirs t t') :
    Ongoing p results t₀ dir loc t' :=
  ⟨h.scratch.addsDirs ht, fun e he content hc =>
    (h.kept e he content hc).grows (S := fun _ => False) (.of_addsDirs ht) fun _ => False.elim⟩

theorem changesFiles {S : Location → Prop} (h : Ongoing p results t₀ dir loc t)
    (ht : ChangesFiles S t t') (hS : ∀ e ∈ results.entries, ∀ s,
      t.locate .target (p.source e) = .ok s → ¬ S s.location) :
    Ongoing p results t₀ dir loc t' :=
  ⟨h.scratch.changesFiles ht, fun e he content hc =>
    (h.kept e he content hc).changesFiles ht (hS e he)⟩

theorem of_createDir (hwf : t₀.WellFormed) (h : t₀.createDir dir = .ok (loc, t)) :
    Ongoing p results t₀ dir loc t :=
  ⟨.of_createDir hwf h, fun _ _ _ hc => .of_createDir hwf h hc⟩

end Ongoing

theorem createPlotsDir_ok (h : p.createPlotsDir s = (.ok (), s')) : AddsDirs s.tree s'.tree := by
  have h := changing_ok h
  have hadds := createDirAll_addsDirs p.context.plotsPath s.tree
  rcases hc : s.tree.createDirAll p.context.plotsPath with ⟨e | u, t⟩ <;> rw [hc] at hadds <;>
    simp only [hc] at h <;> cases h
  exact hadds

theorem renderScript_ok {script output : String}
    (h : p.renderScript script output s = (.ok (), s')) :
    ∃ n, p.render n script output s.tree = (.ok (), s'.tree) := by
  obtain ⟨s₁, s₂, h₁, h⟩ := bind_ok h
  cases h₁
  obtain ⟨u, s₃, h₂, h⟩ := bind_ok h
  cases h₂
  have h := changing_ok h
  exact ⟨_, h⟩

/-- One step of a run. -/
theorem perform_ongoing (hp : p.extract = Extraction.extract)
    (hr : Renderer.WritesOutputOnly p.render) {step : Step} (hstep : step.WritesIn dir)
    (hspare : ∀ call, step.call? s.tree = some call → SparesResults p results call)
    (hs : Ongoing p results t₀ dir loc s.tree) (h : p.perform step s = (.ok (), s')) :
    Ongoing p results t₀ dir loc s'.tree := by
  cases step with
  | log level message =>
    cases h
    exact hs
  | createFile path =>
    obtain ⟨x, hx, rfl⟩ := hstep
    obtain ⟨k, ho⟩ := createFile_ok h
    obtain ⟨rfl, -, hs', hgrows, -⟩ := hs.scratch.openWrite_fills hx ho
    exact hs.fills hs' hgrows
  | takeRows tag mode path e =>
    obtain ⟨x, hx, rfl⟩ := hstep
    obtain ⟨hs', hgrows, -⟩ := takeRows_fills hp hs.scratch hx h
    exact hs.fills hs' hgrows
  | createPlotsDir => exact hs.addsDirs (createPlotsDir_ok h)
  | render script output =>
    obtain ⟨n, h⟩ := renderScript_ok h
    refine hs.changesFiles (hr n script output _ _ h) ?_
    rintro e he spot hspot ⟨spot', hspot', hloc⟩
    exact hspare _ rfl e he ⟨spot', spot, hspot', hspot, hloc⟩

/-- All steps of a run. -/
theorem performAll_ongoing (hp : p.extract = Extraction.extract)
    (hr : Renderer.WritesOutputOnly p.render) {steps : List Step}
    (hsteps : ∀ step ∈ steps, step.WritesIn dir) {events : List Event}
    (hspare : ∀ call ∈ renderCalls events, SparesResults p results call)
    (hs : Ongoing p results t₀ dir loc s.tree) (h : p.performAll steps s = (.ok (), s'))
    (hj : s'.journal = s.journal ++ events) : Ongoing p results t₀ dir loc s'.tree := by
  induction steps generalizing s events with
  | nil =>
    cases h
    exact hs
  | cons step rest ih =>
    obtain ⟨s₁, h₁, h⟩ := p.performAll_cons_ok h
    obtain ⟨first, hfirst, hcalls⟩ := p.perform_calls step s
    obtain ⟨more, hmore, -⟩ := p.performAll_adds rest s₁
    obtain rfl := events_eq_append hj (hfirst.of_ok h₁).1 (hmore.of_ok h).1
    rw [renderCalls_append, hcalls] at hspare
    refine ih (fun step hs => hsteps step (List.mem_cons_of_mem _ hs))
      (fun call hc => hspare call (List.mem_append_right _ hc)) ?_ h (hmore.of_ok h).1
    exact perform_ongoing hp hr (hsteps step List.mem_cons_self)
      (fun call hc => hspare call (List.mem_append_left _ (by simp [hc]))) hs h₁

/-! ## The files at a call -/

theorem createDir_of_make {space before after : String} {stamps : List String}
    (h : ScratchSpace.make space before after t stamps = (.ok (dir, loc), t')) :
    t.createDir dir = .ok (loc, t') := by
  induction stamps with
  | nil => cases h
  | cons stamp stamps ih =>
    unfold ScratchSpace.make at h
    simp only at h
    split at h
    · rename_i hc
      cases h
      exact hc
    · exact ih h
    · cases h

theorem writesIn_of_mem_groupingSteps {g : Constraints}
    (hin : ∀ step ∈ dataSteps v results dir g, step.WritesIn dir) :
    ∀ step ∈ groupingSteps p v results dir g, step.WritesIn dir := by
  intro step hstep
  rcases List.mem_append.1 hstep with hstep | hstep
  · rcases List.mem_cons.1 hstep with rfl | hstep
    · trivial
    · exact hin step hstep
  · have hplot : ∀ step ∈ plotSteps p v results dir g, step.WritesIn dir := by
      unfold plotSteps
      cases p.dryRun <;> simp [Step.WritesIn]
    split at hstep
    · exact hplot step hstep
    · cases List.mem_singleton.1 hstep
      trivial

theorem writesIn_of_mem_stepsToCall {g : Constraints}
    (hin : ∀ step ∈ dataSteps v results dir g, step.WritesIn dir) :
    ∀ step ∈ stepsToCall v results dir g, step.WritesIn dir := by
  unfold stepsToCall
  rw [List.forall_mem_cons, List.forall_mem_append]
  exact ⟨trivial, hin, by simp [Step.WritesIn]⟩

theorem log_ok {level : LogLevel} {message : String}
    (h : p.perform (.log level message) s = (.ok (), s')) : s'.tree = s.tree := by
  cases h
  rfl

/-- A call of the renderer comes after the steps that write the data files of its grouping, which
are performed on an ongoing run. Between them and the call directories are made at most. -/
theorem exists_dataSteps_of_call (hp : p.extract = Extraction.extract)
    (hr : Renderer.WritesOutputOnly p.render) (hwf : s.tree.WellFormed)
    (hin : ∀ dir, ∀ g ∈ v.groupings results, ∀ step ∈ dataSteps v results dir g,
      step.WritesIn dir)
    {events : List Event} (hj : (p.plotVariant results v s).2.journal = s.journal ++ events)
    (hspare : ∀ call ∈ renderCalls events, SparesResults p results call)
    {k : Nat} {call : RenderCall} (hk : (renderCalls events)[k]? = some call) :
    ∃ dir loc t₁ g s₁ s₂, p.makeScratch v s.tree = (.ok (dir, loc), t₁) ∧
      (v.plottedGroupings results)[k]? = some g ∧
      call.output = p.context.outputPath v.name g ∧
      call.script = (scriptOf v results dir g).text ∧
      Ongoing p results s.tree dir loc s₁.tree ∧
      p.performAll (dataSteps v results dir g) s₁ = (.ok (), s₂) ∧
      AddsDirs s₂.tree call.tree ∧ Ongoing p results s.tree dir loc call.tree := by
  obtain ⟨dir, loc, t₁, hm, hj⟩ := exists_scratch_of_call p v results hj hk
  obtain ⟨g, earlier, s₁, s₄, hg, houtput, hscript, hearlier, h₁, h₄, ht, events₄, hj₄, hcalls⟩ :=
    exists_grouping_of_call p v results dir hj hk
  have hstart : Ongoing p results s.tree dir loc t₁ :=
    .of_createDir hwf (createDir_of_make hm)
  obtain ⟨events₁, ha₁, -⟩ :=
    p.performAll_adds (earlier.flatMap (groupingSteps p v results dir)) ⟨t₁, s.journal⟩
  obtain ⟨events₂, ha₂, -⟩ := p.performAll_adds (stepsToCall v results dir g) s₁
  have hj₁ := (ha₁.of_ok h₁).1
  have hj₂ := (ha₂.of_ok h₄).1
  have hevents : events₄ = events₁ ++ events₂ := events_eq_append hj₄ hj₁ hj₂
  -- the calls so far are among all calls of the run
  have hspare' : ∀ call ∈ renderCalls events₁ ++ renderCalls events₂,
      SparesResults p results call := by
    rw [← renderCalls_append, ← hevents, hcalls]
    exact fun call hc => hspare call (List.mem_of_mem_take hc)
  have hs₁ : Ongoing p results s.tree dir loc s₁.tree := by
    refine performAll_ongoing hp hr (fun step hstep => ?_)
      (fun call hc => hspare' call (List.mem_append_left _ hc)) hstart h₁ hj₁
    obtain ⟨g', hg', hstep⟩ := List.mem_flatMap.1 hstep
    exact writesIn_of_mem_groupingSteps (hin dir g' (hearlier g' hg')) step hstep
  have hs₄ : Ongoing p results s.tree dir loc s₄.tree := by
    refine performAll_ongoing hp hr (fun step hstep => ?_)
      (fun call hc => hspare' call (List.mem_append_right _ hc)) hs₁ h₄ hj₂
    exact writesIn_of_mem_stepsToCall (hin dir g (List.mem_filter.1
      (List.mem_of_getElem? hg)).1) step hstep
  obtain ⟨s₁', hlog, h₄⟩ := p.performAll_cons_ok h₄
  obtain ⟨s₂, h₂, h₄⟩ := p.performAll_append_ok h₄
  obtain ⟨s₃, hlog', h₄⟩ := p.performAll_cons_ok h₄
  rw [performAll_singleton] at h₄
  have hadds := createPlotsDir_ok h₄
  have ht₁ : s₁'.tree = s₁.tree := log_ok hlog
  rw [log_ok hlog', ht] at hadds
  exact ⟨dir, loc, t₁, g, s₁', s₂, hm, hg, houtput, hscript, ht₁ ▸ hs₁, h₂, hadds, ht ▸ hs₄⟩

end Plotter

end SweepPlot
