import SweepPlot.Proofs.Grouping.Key
import SweepPlot.Proofs.Run.EntryCurves

/-!
# One curve for each value

When the renderer is called for a variant with one curve for each value of a parameter, the script
names a data file for each of the values, and these files hold the rows of all results that have the
value (`plotVariant_groupCurves`). The files are told apart by the keys of their groups, which is
why values that differ have to differ as texts.
-/

namespace SweepPlot.Plotter

open RunM FileTree Extraction

variable {p : Plotter} {v : Variant} {results : ResultSet}

/-- **One curve for each value.** When the renderer is called, the script has the settings of the
variant and a curve for each listed value, in order, with the value as its title and its data file.
This file then holds the rows of the results that have the value, one result after the other, and
nothing else, whatever groupings and values before have left: the rows of what the results held when
the run started, or of what they hold now if they stand outside of the scratch directory. -/
theorem plotVariant_groupCurves {axis : String} {values : List Value} {order : Order}
    (hlayout : v.layout = .perGroup axis values order)
    (hdistinct : ∀ a ∈ values, ∀ b ∈ values, a.display = b.display → a = b)
    (hname : '/' ∉ v.name.toList) (hv : v.SlashFree) (haxis : '/' ∉ axis.toList)
    (hvalues : ∀ value ∈ values, '/' ∉ value.display.toList)
    (hfiles : ∀ e ∈ results.entries, '/' ∉ e.filename.toList)
    (hextract : p.extract = Extraction.extract) (hrender : Renderer.WritesOutputOnly p.render)
    {s : RunState} (hwf : s.tree.WellFormed) {events : List Event}
    (hevents : (p.plotVariant results v s).2.journal = s.journal ++ events)
    (hspare : ∀ call ∈ renderCalls events, SparesResults p results call)
    {k : Nat} {call : RenderCall} (hcall : (renderCalls events)[k]? = some call) :
    ∃ dir loc t g, p.makeScratch v s.tree = (.ok (dir, loc), t) ∧
      (v.plottedGroupings results)[k]? = some g ∧
      call.output = p.context.outputPath v.name g ∧
      call.script = (Script.mk v.template.directives (values.map fun value =>
        ⟨Path.join dir (v.name ++ "_" ++ (g.union (.single axis value)).key),
          "using 1:2:xtic(1) with linespoints", value.display⟩)).text ∧
      ∀ value ∈ values,
        let entries := results.select (g.union (.single axis value)) v.predicate order
        (∀ e ∈ entries, ∃ content, call.tree.read (p.source e) = .ok content) ∧
        ∀ content : Entry → Bytes,
          (∀ e ∈ entries, s.tree.read (p.source e) = .ok (content e) ∨
            call.tree.ReadsOutside loc (p.source e) (content e)) →
          call.tree.read (Path.join dir (v.name ++ "_" ++ (g.union (.single axis value)).key)) =
            .ok (entries.flatMap fun e => plotData v.tag (content e)) := by
  have hisName : ∀ g ∈ v.groupings results, ∀ value ∈ values,
      IsName (v.groupFile (g.union (.single axis value))) := by
    intro g hg value hvalue
    have hg := Variant.slashFree_of_mem_groupings hv hfiles g hg
    exact isName_of_underscore hname (hg.insert haxis (hvalues value hvalue)).key
  have hin : ∀ dir, ∀ g ∈ v.groupings results, ∀ step ∈ dataSteps v results dir g,
      step.WritesIn dir := by
    intro dir g hg step hstep
    rw [dataSteps, hlayout] at hstep
    obtain ⟨value, hvalue, hstep⟩ := List.mem_flatMap.1 hstep
    rcases List.mem_cons.1 hstep with rfl | hstep
    · exact ⟨_, hisName g hg value hvalue, rfl⟩
    · obtain ⟨e, -, rfl⟩ := List.mem_map.1 hstep
      exact ⟨_, hisName g hg value hvalue, rfl⟩
  obtain ⟨dir, loc, t, g, s₁, s₂, hscratch, hg, houtput, hscript, hs₁, hdata, hadds, hcallTree⟩ :=
    exists_dataSteps_of_call hextract hrender hwf hin hevents hspare hcall
  have hgmem : g ∈ v.groupings results := (List.mem_filter.1 (List.mem_of_getElem? hg)).1
  refine ⟨dir, loc, t, g, hscratch, hg, houtput, ?_, fun value hvalue => ?_⟩
  · rw [hscript, scriptOf_perGroup results dir hlayout]
  · rw [dataSteps, hlayout] at hdata
    obtain ⟨-, -, hholds⟩ := performAll_files
      (fun value => v.groupFile (g.union (.single axis value)))
      (groupEntries v results g axis order)
      (fun value hvalue => writesFile_createFile hextract (hisName g hgmem value hvalue) _)
      (fun a ha b hb hab => by
        have hkey : (g.insert axis a).key = (g.insert axis b).key := by
          simpa [Variant.groupFile, Constraints.union_single] using hab
        rw [hdistinct a ha b hb (Constraints.key_insert_inj hkey)])
      hs₁.scratch hdata
    have hfile := (hholds value hvalue).grows (S := fun _ => False) (.of_addsDirs hadds)
      (fun _ => False.elim) id
    refine ⟨hfile.readable, fun content hcontent => ?_⟩
    refine hfile.read hcallTree.scratch content fun e he => ?_
    exact (hcontent e he).elim (hcallTree.kept e (ResultSet.mem_select.1 he).1 (content e)) id

/-- One plot for each value of a parameter, in which another value of it replaces that one. -/
def sampleGroups : Variant :=
  { sampleVariant with layout := .perGroup "n" [.int 2] .discovery }

theorem sampleGroups_slashFree : sampleGroups.SlashFree where
  base _ hb := nomatch hb
  axisName := by decide
  listed name values h := by
    cases List.mem_singleton.1 h

/-- In the second plot of a run the data file, which the first one has written too, holds the row of
the result once. -/
theorem plotVariant_groupCurves_second : ∃ call, (sampleCalls sampleGroups)[1]? = some call ∧
    call.tree.read "/t/v-0-x-1/v_n=2" = .ok (Text.Utf8.encode "7\t0.5\n") := by
  have hsome : ((sampleCalls sampleGroups)[1]?).isSome = true := by decide +kernel
  obtain ⟨call, hcall⟩ := Option.isSome_iff_exists.1 hsome
  have hspare : ∀ call ∈ sampleCalls sampleGroups,
      SparesResults (samplePlotter sampleRender) sampleResults call := by decide +kernel
  obtain ⟨dir, loc, t, g, hmake, hg, -, -, hdata⟩ :=
    @plotVariant_groupCurves (samplePlotter sampleRender) sampleGroups sampleResults "n" [.int 2]
      .discovery rfl (by decide +kernel) (by decide) sampleGroups_slashFree (by decide)
      (by decide +kernel) (by decide) rfl
      (PlottingProgram.renderer_writesOutputOnly _ _) ⟨sampleTree, []⟩ sampleTree_wellFormed _
      (List.nil_append _).symm hspare 1 call hcall
  have hdir : ((samplePlotter sampleRender).makeScratch sampleGroups sampleTree).1.toOption.map
      (·.1) = some "/t/v-0-x-1" := by decide +kernel
  rw [hmake] at hdir
  cases hdir
  have hgroup : (sampleGroups.plottedGroupings sampleResults)[1]? =
      some (.single "n" (.int 2)) := by decide +kernel
  cases hg.symm.trans hgroup
  have hentries : sampleResults.select ((Constraints.single "n" (.int 2)).union
      (.single "n" (.int 2))) none .discovery = [⟨"b_n=2", .ofList [("n", .int 2)]⟩] := by
    decide +kernel
  have hrows : plotData sampleGroups.tag (Text.Utf8.encode "0\tLATENCYFRACTION\t7\t0.5\n") =
      Text.Utf8.encode "7\t0.5\n" := by decide +kernel
  have hpath : Path.join "/t/v-0-x-1" (sampleGroups.name ++ "_" ++ ((Constraints.single "n"
      (.int 2)).union (.single "n" (.int 2))).key) = "/t/v-0-x-1/v_n=2" := by decide +kernel
  refine ⟨call, hcall, ?_⟩
  rw [← hrows, ← hpath]
  have hread := (hdata (.int 2) List.mem_cons_self).2
    fun _ => Text.Utf8.encode "0\tLATENCYFRACTION\t7\t0.5\n"
  simp only [show sampleGroups.predicate = none from rfl, hentries] at hread
  simpa using hread fun e he => .inl (List.mem_singleton.1 he ▸ rfl)

end SweepPlot.Plotter
