import SweepPlot.Proofs.Run.Calls
import SweepPlot.Proofs.Selection.Positions

/-!
# One curve for each result

When the renderer is called for a variant with one curve for each result, the script names a data
file for each selected result, and these files hold the rows of the results
(`plotVariant_entryCurves`).
-/

namespace SweepPlot.Plotter

open RunM FileTree Extraction

variable {p : Plotter} {v : Variant} {results : ResultSet}

/-- **One curve for each result.** When the renderer is called, the script has the settings of the
variant and a curve for each selected result, in order, with its own line pattern, its title and its
data file. This file then holds the rows of the result and nothing else, whatever groupings before
have left: the rows of what the result held when the run started, or of what it holds now if it
stands outside of the scratch directory. -/
theorem plotVariant_entryCurves {order : Order} {title : SeriesTitle}
    (hlayout : v.layout = .perEntry order title) (hname : '/' ∉ v.name.toList)
    (hfiles : ∀ e ∈ results.entries, '/' ∉ e.filename.toList)
    (hextract : p.extract = Extraction.extract) (hrender : Renderer.WritesOutputOnly p.render)
    {s : RunState} (hwf : s.tree.WellFormed) {events : List Event}
    (hevents : (p.plotVariant results v s).2.journal = s.journal ++ events)
    (hspare : ∀ call ∈ renderCalls events, SparesResults p results call)
    {k : Nat} {call : RenderCall} (hcall : (renderCalls events)[k]? = some call) :
    ∃ dir loc t g, p.makeScratch v s.tree = (.ok (dir, loc), t) ∧
      (v.plottedGroupings results)[k]? = some g ∧
      call.output = p.context.outputPath v.name g ∧
      call.script = (Script.mk v.template.directives
        ((results.select g v.predicate order).mapIdx fun i e =>
          ⟨Path.join dir (v.name ++ "_" ++ e.filename),
            "using 1:2 with lines lw 2 dt " ++ Text.Decimal.text (2 + i),
            title.text e.parameters⟩)).text ∧
      ∀ e ∈ results.select g v.predicate order,
        (∃ content, call.tree.read (p.source e) = .ok content) ∧
        ∀ content, s.tree.read (p.source e) = .ok content ∨
            call.tree.ReadsOutside loc (p.source e) content →
          call.tree.read (Path.join dir (v.name ++ "_" ++ e.filename)) =
            .ok (plotData v.tag content) := by
  have hisName : ∀ e ∈ results.entries, IsName (v.entryFile e) := fun e he =>
    isName_of_underscore hname (hfiles e he)
  have hin : ∀ dir, ∀ g ∈ v.groupings results, ∀ step ∈ dataSteps v results dir g,
      step.WritesIn dir := by
    intro dir g _ step hstep
    rw [dataSteps, hlayout] at hstep
    obtain ⟨e, he, rfl⟩ := List.mem_map.1 hstep
    exact ⟨v.entryFile e, hisName e (ResultSet.mem_select.1 he).1, rfl⟩
  obtain ⟨dir, loc, t, g, s₁, s₂, hscratch, hg, houtput, hscript, hs₁, hdata, hadds, hcallTree⟩ :=
    exists_dataSteps_of_call hextract hrender hwf hin hevents hspare hcall
  refine ⟨dir, loc, t, g, hscratch, hg, houtput, ?_, fun e he => ?_⟩
  · rw [hscript, scriptOf_perEntry results dir hlayout]
  · have hsteps : dataSteps v results dir g = (results.select g v.predicate order).flatMap
        fun e => [.takeRows v.tag .truncate (Path.join dir (v.entryFile e)) e] := by
      rw [dataSteps, hlayout, ← List.map_eq_flatMap]
      rfl
    rw [hsteps] at hdata
    obtain ⟨-, -, hholds⟩ := performAll_files v.entryFile (fun e => [e])
      (fun e he => writesFile_takeRows hextract (hisName e (ResultSet.mem_select.1 he).1) e)
      (fun a ha b hb hab => by
        have hab : a.filename = b.filename := by simpa [Variant.entryFile] using hab
        rw [ResultSet.eq_of_filename (ResultSet.mem_select.1 ha).1 (ResultSet.mem_select.1 hb).1
          hab])
      hs₁.scratch hdata
    have hfile := (hholds e he).grows (S := fun _ => False) (.of_addsDirs hadds)
      (fun _ => False.elim) id
    refine ⟨hfile.readable e (by simp), fun content hcontent => ?_⟩
    have hout : call.tree.ReadsOutside loc (p.source e) content :=
      hcontent.elim (hcallTree.kept e (ResultSet.mem_select.1 he).1 content) id
    have hread := hfile.read hcallTree.scratch (fun _ => content)
      (fun e' he' => by rwa [List.mem_singleton.1 he'])
    simpa [Variant.entryFile] using hread

/-- A renderer that runs a program, which takes every script and writes the start of a plot. -/
def sampleRender : Renderer :=
  PlottingProgram.standard.renderer fun _ _ => .ok fun _ =>
    ⟨.ok (), Text.Utf8.encode "%PDF", [], .ok (.code 0)⟩

/-- The calls of the renderer in a run on the sample files. -/
def sampleCalls (v : Variant) : List RenderCall :=
  renderCalls ((samplePlotter sampleRender).plotVariant sampleResults v ⟨sampleTree, []⟩).2.journal

theorem sampleTree_wellFormed : sampleTree.WellFormed := wellFormed_of_nodes (by decide)

/-- In the second plot of a run the data file of the second result holds its row. -/
theorem plotVariant_entryCurves_second : ∃ call, (sampleCalls sampleVariant)[1]? = some call ∧
    call.tree.read "/t/v-0-x-1/v_b_n=2" = .ok (Text.Utf8.encode "7\t0.5\n") := by
  have hsome : ((sampleCalls sampleVariant)[1]?).isSome = true := by decide +kernel
  obtain ⟨call, hcall⟩ := Option.isSome_iff_exists.1 hsome
  have hspare : ∀ call ∈ sampleCalls sampleVariant,
      SparesResults (samplePlotter sampleRender) sampleResults call := by decide +kernel
  obtain ⟨dir, loc, t, g, hmake, hg, -, -, hdata⟩ :=
    @plotVariant_entryCurves (samplePlotter sampleRender) sampleVariant sampleResults .discovery
      (.pairs []) rfl (by decide) (by decide) rfl (PlottingProgram.renderer_writesOutputOnly _ _)
      ⟨sampleTree, []⟩ sampleTree_wellFormed _ (List.nil_append _).symm hspare 1 call hcall
  have hdir : ((samplePlotter sampleRender).makeScratch sampleVariant sampleTree).1.toOption.map
      (·.1) = some "/t/v-0-x-1" := by decide +kernel
  rw [hmake] at hdir
  cases hdir
  have hgroup : (sampleVariant.plottedGroupings sampleResults)[1]? =
      some (.single "n" (.int 2)) := by decide +kernel
  cases hg.symm.trans hgroup
  refine ⟨call, hcall, ?_⟩
  have hrows : plotData sampleVariant.tag (Text.Utf8.encode "0\tLATENCYFRACTION\t7\t0.5\n") =
      Text.Utf8.encode "7\t0.5\n" := by decide +kernel
  rw [← hrows]
  exact (hdata ⟨"b_n=2", .ofList [("n", .int 2)]⟩ (by decide +kernel)).2 _ (.inl rfl)

end SweepPlot.Plotter
