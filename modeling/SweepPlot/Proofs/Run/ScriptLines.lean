import SweepPlot.Listing
import SweepPlot.Proofs.Grouping.Key
import SweepPlot.Proofs.Run.EntryCurves
import SweepPlot.Proofs.Script.Line

/-!
# Scripts of a run that are lines

The texts of a script come from the variant, from the path of the scratch directory and from the
names of result files. The last ones are found and not chosen, and they reach the script in two
ways: in the names of data files, and as values in titles.

* `Plotter.Unbroken` and `Variant.Unbroken` say that the chosen texts hold no line feed.
* `Plotter.isLine_scriptOf_iff` says that the script of a grouping is then a line exactly if the
  names of its data files (`Variant.dataFiles`) hold no line feed either.
  `Variant.feed_not_mem_dataFiles` says that they hold none if the names of the results hold none.
* `Plotter.plotVariant_isLine_iff` is the same for all scripts that a run hands to the renderer.
  A result whose name ends in a line feed is found like any other, and its script is no line
  (`Plotter.plotVariant_broken_line`).
-/

namespace SweepPlot

/-! ## Paths of data files -/

/-- A path below another one adds a slash at most. -/
theorem Path.mem_join {x : Char} (hx : x ≠ '/') {dir : String} (hdir : x ∉ dir.toList)
    {file : String} : x ∈ (join dir file).toList ↔ x ∈ file.toList := by
  unfold join
  split
  · rfl
  · split <;> simp [hdir, hx]

/-- The path of a scratch directory shows one of the stamps. -/
theorem ScratchSpace.exists_stamp_of_make {space before after dir : String} {loc : Location}
    {stamps : List String} {t t' : FileTree}
    (h : make space before after t stamps = (.ok (dir, loc), t')) :
    ∃ stamp ∈ stamps, dir = Path.join space (before ++ stamp ++ after) := by
  induction stamps with
  | nil => cases h
  | cons stamp stamps ih =>
    unfold make at h
    simp only at h
    split at h
    · cases h
      exact ⟨stamp, List.mem_cons_self, rfl⟩
    · obtain ⟨stamp', hmem, hdir⟩ := ih h
      exact ⟨stamp', List.mem_cons_of_mem _ hmem, hdir⟩
    · cases h

/-- The texts that name a scratch directory hold no line feed. -/
structure Plotter.Unbroken (p : Plotter) : Prop where
  runId : '\n' ∉ p.context.runId.toList
  experimentId : '\n' ∉ p.context.experimentId.toList
  scratchDir : '\n' ∉ p.scratch.dir.toList
  stamps : ∀ stamp ∈ p.scratch.stamps, '\n' ∉ stamp.toList

theorem Plotter.Unbroken.makeScratch {p : Plotter} (hp : p.Unbroken) {v : Variant}
    (hname : '\n' ∉ v.name.toList) {t t' : FileTree} {dir : String} {loc : Location}
    (h : p.makeScratch v t = (.ok (dir, loc), t')) : '\n' ∉ dir.toList := by
  obtain ⟨stamp, hstamp, rfl⟩ := ScratchSpace.exists_stamp_of_make h
  rw [Path.mem_join (by decide) hp.scratchDir]
  simp [hname, hp.stamps stamp hstamp, hp.experimentId, hp.runId]

/-! ## Texts of a variant -/

/-- The names of the parameters in a title. -/
def SeriesTitle.names : SeriesTitle → List String
  | .value name => [name]
  | .pairs names => names

/-- The texts of a layout that stand in a script. -/
def Layout.texts : Layout → List String
  | .perEntry _ title => title.names
  | .perGroup axis values _ => axis :: values.map Value.display

/-- The texts of a variant hold no line feed. -/
structure Variant.Unbroken (v : Variant) : Prop where
  name : '\n' ∉ v.name.toList
  base : v.base.Lacks '\n'
  axisName : ∀ axis ∈ v.outerAxes, '\n' ∉ axis.name.toList
  listed : ∀ name values, .listed name values ∈ v.outerAxes →
    ∀ value ∈ values, '\n' ∉ value.display.toList
  layout : ∀ text ∈ v.layout.texts, '\n' ∉ text.toList
  template : ∀ text ∈ v.template.texts, '\n' ∉ text.toList

/-- The names of the data files of a grouping. -/
def Variant.dataFiles (v : Variant) (results : ResultSet) (g : Constraints) : List String :=
  match v.layout with
  | .perEntry order _ => (results.select g v.predicate order).map v.entryFile
  | .perGroup axis values _ => values.map fun value => v.groupFile (g.union (.single axis value))

/-- A title has the characters of its names and of the file name, from which the values are. -/
theorem SeriesTitle.feed_not_mem_text {title : SeriesTitle} {filename label : String}
    {p : Parameters} (h : ResultName.parse filename = .ok (label, p))
    (hfile : '\n' ∉ filename.toList) (hnames : ∀ name ∈ title.names, '\n' ∉ name.toList) :
    '\n' ∉ (title.text p).toList := by
  have hvalue : ∀ name, '\n' ∉ (valueText p name).toList := by
    intro name
    unfold valueText
    split
    · rename_i value hv
      obtain ⟨raw, rfl, -, -, hraw⟩ := ResultName.exists_raw_of_parse h hv
      exact Value.not_mem_display_parse (by decide) fun hfeed => hfile (hraw _ hfeed)
    · decide
  cases title with
  | value name => exact hvalue name
  | pairs names =>
    rw [text, Text.mem_intercalate (by decide)]
    rintro ⟨pair, hpair, hfeed⟩
    obtain ⟨name, hname, rfl⟩ := List.mem_map.1 hpair
    simp [hvalue, hnames name hname] at hfeed

namespace Plotter

variable {p : Plotter} {v : Variant} {results : ResultSet}

theorem feed_not_mem_entryStyle (index : Nat) : '\n' ∉ (entryStyle index).toList := by
  have hdash : '\n' ∉ (Text.Decimal.text (firstDashType + index)).toList := by
    rw [Text.Decimal.text, String.toList_ofList]
    exact Text.Decimal.not_mem_digits (by decide) _
  unfold entryStyle
  rw [String.toList_append, List.mem_append, not_or]
  exact ⟨by decide, hdash⟩

theorem feed_not_mem_groupStyle : '\n' ∉ groupStyle.toList := by decide

/-- The script of a grouping is a line exactly if its data files are named without line feeds. -/
theorem isLine_scriptOf_iff (hv : v.Unbroken) {dir : String} (hdir : '\n' ∉ dir.toList)
    (g : Constraints) : Text.IsLine (scriptOf v results dir g).text ↔
      ∀ file ∈ v.dataFiles results g, '\n' ∉ file.toList := by
  have hpath : ∀ file : String, '\n' ∉ (Path.join dir file).toList ↔ '\n' ∉ file.toList :=
    fun file => not_congr (Path.mem_join (by decide) hdir)
  have hlayout := hv.layout
  rw [Script.isLine_text_iff, scriptOf, Variant.dataFiles,
    and_iff_right (Template.feed_not_mem_directives hv.template)]
  cases hl : v.layout with
  | perEntry order title =>
    rw [hl] at hlayout
    have htitle : ∀ e ∈ results.select g v.predicate order, '\n' ∉ (v.entryFile e).toList →
        '\n' ∉ (title.text e.parameters).toList := by
      intro e he hfile
      refine SeriesTitle.feed_not_mem_text (results.parsed e (ResultSet.mem_select.1 he).1) ?_
        hlayout
      exact fun hfeed => hfile (by simp [Variant.entryFile, hfeed])
    rw [List.forall_mem_map]
    simp only [entryCurves, List.mem_mapIdx]
    constructor
    · intro h e he
      obtain ⟨i, hi, rfl⟩ := List.getElem_of_mem he
      exact (hpath _).1 (h _ ⟨i, hi, rfl⟩).1
    · rintro h _ ⟨i, hi, rfl⟩
      have hfile := h _ (List.getElem_mem hi)
      exact ⟨(hpath _).2 hfile, feed_not_mem_entryStyle _, htitle _ (List.getElem_mem hi) hfile⟩
  | perGroup axis values order =>
    rw [hl] at hlayout
    have htitle : ∀ value ∈ values, '\n' ∉ value.display.toList := fun value hvalue =>
      hlayout _ (List.mem_cons_of_mem _ (List.mem_map_of_mem hvalue))
    simp only [List.forall_mem_map]
    refine forall₂_congr fun value hvalue => ?_
    rw [groupCurve, hpath]
    exact and_iff_left ⟨feed_not_mem_groupStyle, htitle value hvalue⟩

end Plotter

/-- Results without line feeds in their names have data files without. -/
theorem Variant.feed_not_mem_dataFiles {v : Variant} (hv : v.Unbroken) {results : ResultSet}
    (hfiles : ∀ e ∈ results.entries, '\n' ∉ e.filename.toList) {g : Constraints}
    (hg : g ∈ v.groupings results) : ∀ file ∈ v.dataFiles results g, '\n' ∉ file.toList := by
  have hlayout := hv.layout
  unfold dataFiles
  cases hl : v.layout with
  | perEntry order title =>
    rw [List.forall_mem_map]
    intro e he
    simp [entryFile, hv.name, hfiles e (ResultSet.mem_select.1 he).1]
  | perGroup axis values order =>
    rw [hl, Layout.texts, List.forall_mem_cons, List.forall_mem_map] at hlayout
    rw [List.forall_mem_map]
    intro value hvalue
    have hlacks := lacks_of_mem_groupings (by decide) hv.base hv.axisName hv.listed hfiles g hg
    have hkey := (hlacks.insert hlayout.1 (hlayout.2 value hvalue)).key (by decide) (by decide)
    simp [groupFile, Constraints.union_single, hv.name, hkey]

namespace Plotter

variable {p : Plotter} {v : Variant} {results : ResultSet}

theorem isLine_call_iff (hp : p.Unbroken) (hv : v.Unbroken) {s : RunState} {events : List Event}
    (hevents : (p.plotVariant results v s).2.journal = s.journal ++ events) {k : Nat}
    {call : RenderCall} (hcall : (renderCalls events)[k]? = some call) :
    ∃ g, (v.plottedGroupings results)[k]? = some g ∧
      call.output = p.context.outputPath v.name g ∧
      (Text.IsLine call.script ↔ ∀ file ∈ v.dataFiles results g, '\n' ∉ file.toList) := by
  obtain ⟨dir, loc, t, hmake, hsteps⟩ := exists_scratch_of_call p v results hevents hcall
  obtain ⟨g, -, -, -, hg, houtput, hscript, -⟩ :=
    exists_grouping_of_call p v results dir hsteps hcall
  exact ⟨g, hg, houtput, hscript ▸ isLine_scriptOf_iff hv (hp.makeScratch hv.name hmake) g⟩

/-- **Scripts are lines unless a data file has a line feed in its name.** This is so for every
script that a run hands to the renderer. Line feeds in such names come from the names of results
only: if no result has one in its name, all scripts are lines. -/
theorem plotVariant_isLine_iff (hp : p.Unbroken) (hv : v.Unbroken) {s : RunState}
    {events : List Event} (hevents : (p.plotVariant results v s).2.journal = s.journal ++ events)
    {k : Nat} {call : RenderCall} (hcall : (renderCalls events)[k]? = some call) :
    ∃ g, (v.plottedGroupings results)[k]? = some g ∧
      call.output = p.context.outputPath v.name g ∧
      (Text.IsLine call.script ↔ ∀ file ∈ v.dataFiles results g, '\n' ∉ file.toList) ∧
      ((∀ e ∈ results.entries, '\n' ∉ e.filename.toList) → Text.IsLine call.script) := by
  obtain ⟨g, hg, houtput, hline⟩ := isLine_call_iff hp hv hevents hcall
  have hgroup : g ∈ v.groupings results := (List.mem_filter.1 (List.mem_of_getElem? hg)).1
  refine ⟨g, hg, houtput, hline, fun hfiles => hline.2 ?_⟩
  exact Variant.feed_not_mem_dataFiles hv hfiles hgroup

theorem samplePlotter_unbroken : (samplePlotter sampleRender).Unbroken :=
  ⟨by decide, by decide, by decide, by decide⟩

theorem sampleVariant_unbroken : sampleVariant.Unbroken where
  name := by decide
  base _ hb := nomatch hb
  axisName := by decide
  listed name values h := nomatch List.mem_singleton.1 h
  layout := by decide
  template := by decide

/-- The second script of a run is a line. -/
theorem plotVariant_isLine_second : ∃ call, (sampleCalls sampleVariant)[1]? = some call ∧
    Text.IsLine call.script := by
  have hsome : ((sampleCalls sampleVariant)[1]?).isSome = true := by decide +kernel
  obtain ⟨call, hcall⟩ := Option.isSome_iff_exists.1 hsome
  obtain ⟨-, -, -, -, hline⟩ := plotVariant_isLine_iff (s := ⟨sampleTree, []⟩)
    samplePlotter_unbroken sampleVariant_unbroken (List.nil_append _).symm hcall
  exact ⟨call, hcall, hline (by decide)⟩

/-- A result whose name ends in a line feed. -/
def brokenResults : ResultSet where
  label := "b"
  entries := [⟨"b_n=1\n", .ofList [("n", .text "1\n")]⟩]
  parsed e he := by
    cases List.mem_singleton.1 he
    rfl

/-- The file of this result, and a directory for scratch directories. -/
def brokenTree : FileTree where
  nodes :=
    let dir : Location := [.text "r", .text "1", .text "x"]
    [([.text "t"], .dir), ([.text "r"], .dir), ([.text "r", .text "1"], .dir), (dir, .dir),
      (dir ++ [.text "b_n=1\n"], .file (Text.Utf8.encode "0\tLATENCYFRACTION\t5\t0.5\n"))]
  workDir := []

/-- The result is found, and the script of its plot is no line. -/
theorem plotVariant_broken_line :
    (samplePlotter sampleRender).Unbroken ∧ sampleVariant.Unbroken ∧
      (brokenTree.discover "/r/1/x").toOption = some brokenResults ∧
      ∃ call, (renderCalls ((samplePlotter sampleRender).plotVariant brokenResults sampleVariant
        ⟨brokenTree, []⟩).2.journal)[0]? = some call ∧ ¬ Text.IsLine call.script := by
  refine ⟨samplePlotter_unbroken, sampleVariant_unbroken, by decide +kernel, ?_⟩
  have hsome : ((renderCalls ((samplePlotter sampleRender).plotVariant brokenResults sampleVariant
      ⟨brokenTree, []⟩).2.journal)[0]?).isSome = true := by decide +kernel
  obtain ⟨call, hcall⟩ := Option.isSome_iff_exists.1 hsome
  obtain ⟨g, hg, -, hline⟩ := isLine_call_iff (s := ⟨brokenTree, []⟩) samplePlotter_unbroken
    sampleVariant_unbroken (List.nil_append _).symm hcall
  have hgroup : (sampleVariant.plottedGroupings brokenResults)[0]? =
      some (.single "n" (.text "1\n")) := by decide +kernel
  cases hg.symm.trans hgroup
  have hfile : "v_b_n=1\n" ∈ sampleVariant.dataFiles brokenResults
      (.single "n" (.text "1\n")) := by decide +kernel
  exact ⟨call, hcall, fun h => hline.1 h _ hfile (by decide)⟩

end Plotter

end SweepPlot
