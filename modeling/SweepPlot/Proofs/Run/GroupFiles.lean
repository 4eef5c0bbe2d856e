import SweepPlot.Proofs.Run.GroupCurves

/-!
# Curves that share a data file

With one curve for each value of a parameter the data files are named by the keys of the groups, and
a key shows no types. Values of different types may be selected differently and still be written
alike; then their curves share a file, and the file holds the rows of the value that is listed last.

* `Plotter.groupCurve_path_inj` says that curves with the same file have values that are written
  alike, whatever the other constraints, the directory and the name of the variant are.
* `Plotter.buildScript_groupFiles` says when the curves of a script share a file and what this file
  holds.
* `Plotter.buildScript_sharedFile` is a script with two curves that share a file, of which the first
  one loses its row.
-/

namespace SweepPlot

/-- Paths below a directory are told apart by what comes after a common start. -/
theorem Path.join_append_inj {dir a b c : String} (ha : a ≠ "")
    (h : join dir (a ++ b) = join dir (a ++ c)) : b = c := by
  obtain ⟨x, rest, hx⟩ := List.exists_cons_of_ne_nil (mt String.toList_eq_nil_iff.1 ha)
  have habsolute : isAbsolute (a ++ b) = isAbsolute (a ++ c) := by
    simp [isAbsolute, hx]
  unfold join at h
  rw [habsolute] at h
  split at h
  · exact (String.append_right_inj _).1 h
  · split at h <;> exact (String.append_right_inj _).1 ((String.append_right_inj _).1 h)

namespace Plotter

open RunM FileTree Extraction

variable {p : Plotter} {v : Variant} {results : ResultSet} {dir : String} {g : Constraints}
  {axis : String} {values : List Value} {order : Order} {s s' : RunState} {script : Script}

/-- Curves share a data file exactly if their values are written alike. -/
theorem groupCurve_path_inj {a b : Value} :
    (groupCurve v dir g axis a).path = (groupCurve v dir g axis b).path ↔
      a.display = b.display := by
  constructor
  · intro h
    have hne : v.name ++ "_" ≠ "" := by simp
    exact Constraints.key_insert_inj (Path.join_append_inj hne h)
  · intro h
    obtain ⟨start, rest, hkey⟩ := g.exists_key_insert_eq axis
    simp only [groupCurve, Variant.groupFile, Constraints.union_single, hkey, h]

/-- A script that is built is the script of the grouping, after the data files are written. -/
theorem buildScript_ok (h : p.buildScript v results dir g s = (.ok (some script), s')) :
    p.performAll (dataSteps v results dir g) s = (.ok (), s') ∧
      script = scriptOf v results dir g := by
  rw [buildScript_eq] at h
  obtain ⟨u, s₁, h₁, h⟩ := bind_ok h
  rcases hplot : v.hasPlot results g <;> rw [hplot] at h <;> cases h
  exact ⟨h₁, rfl⟩

/-- The file of a value holds its rows if no value that is listed after it is written alike. -/
theorem groupSteps_last (hextract : p.extract = Extraction.extract) (hname : '/' ∉ v.name.toList)
    (hg : g.SlashFree) (haxis : '/' ∉ axis.toList)
    (hvalues : ∀ value ∈ values, '/' ∉ value.display.toList) {t₀ : FileTree} {loc : Location}
    (hs : Scratch t₀ dir loc s.tree)
    (h : p.performAll (values.flatMap (groupSteps v results dir g axis order)) s = (.ok (), s'))
    {before after : List Value} {b : Value} (hsplit : values = before ++ b :: after)
    (hlast : ∀ c ∈ after, c.display ≠ b.display) :
    Scratch t₀ dir loc s'.tree ∧
      HasRowsOf p v.tag dir loc (v.groupFile (g.union (.single axis b)))
        (groupEntries v results g axis order b) s'.tree := by
  have hwrites : ∀ value ∈ values,
      WritesFile p v.tag t₀ dir loc (v.groupFile (g.union (.single axis value)))
        (groupEntries v results g axis order value)
        (groupSteps v results dir g axis order value) := fun value hvalue =>
    writesFile_createFile hextract
      (isName_of_underscore hname (hg.insert haxis (hvalues value hvalue)).key) _
  obtain ⟨hs', -⟩ := performAll_files_grows
    (fun value => v.groupFile (g.union (.single axis value)))
    (groupEntries v results g axis order) hwrites hs h
  subst hsplit
  refine ⟨hs', performAll_files_last _ _ hwrites (fun c hc hcb => hlast c hc ?_) hs h⟩
  refine (@groupCurve_path_inj v dir g axis c b).1 ?_
  simp only [groupCurve, hcb]

/-- **Which curves share a data file.** A script has a curve for each listed value. Two of them
share a data file exactly if their values are equal or one value is an integer and the other one its
text. A file in a scratch directory holds the rows of the results that have the value of its last
curve, and nothing else. -/
theorem buildScript_groupFiles (hlayout : v.layout = .perGroup axis values order)
    (hbuild : p.buildScript v results dir g s = (.ok (some script), s')) :
    script.series.length = values.length ∧
    (∀ (i j : Nat) (a b : Value) (x y : Series), values[i]? = some a → values[j]? = some b →
      script.series[i]? = some x → script.series[j]? = some y →
      (x.path = y.path ↔ a = b ∨ ∃ n : Int64,
        (a = .int n ∧ b = .text (String.ofList (Text.Decimal.ofInt n.toInt))) ∨
          (a = .text (String.ofList (Text.Decimal.ofInt n.toInt)) ∧ b = .int n))) ∧
    (p.extract = Extraction.extract ∧ '/' ∉ v.name.toList ∧ g.SlashFree ∧ '/' ∉ axis.toList ∧
        (∀ value ∈ values, '/' ∉ value.display.toList) →
      ∀ (t₀ : FileTree) (loc : Location), Scratch t₀ dir loc s.tree →
      ∀ (j : Nat) (b : Value) (y : Series), values[j]? = some b → script.series[j]? = some y →
        (∀ (k : Nat) (z : Series), j < k → script.series[k]? = some z → z.path ≠ y.path) →
        let entries := results.select (g.union (.single axis b)) v.predicate order
        (∀ e ∈ entries, ∃ content, s'.tree.read (p.source e) = .ok content) ∧
        ∀ content : Entry → Bytes,
          (∀ e ∈ entries, s'.tree.ReadsOutside loc (p.source e) (content e)) →
          s'.tree.read y.path = .ok (entries.flatMap fun e => plotData v.tag (content e))) := by
  obtain ⟨hdata, rfl⟩ := buildScript_ok hbuild
  have hseries : (scriptOf v results dir g).series = values.map (groupCurve v dir g axis) := by
    rw [scriptOf, hlayout]
  rw [hseries]
  refine ⟨List.length_map .., ?_, ?_⟩
  · intro i j a b x y ha hb hx hy
    rw [List.getElem?_map, ha] at hx
    rw [List.getElem?_map, hb] at hy
    cases hx
    cases hy
    rw [groupCurve_path_inj]
    exact Value.display_eq_iff
  · rintro ⟨hextract, hname, hg, haxis, hvalues⟩ t₀ loc hs j b y hb hy hlast
    rw [List.getElem?_map, hb] at hy
    cases hy
    obtain ⟨hj, hb⟩ := List.getElem?_eq_some_iff.1 hb
    have hsplit : values = values.take j ++ b :: values.drop (j + 1) := by
      rw [← hb, ← List.drop_eq_getElem_cons hj, List.take_append_drop]
    have hafter : ∀ c ∈ values.drop (j + 1), c.display ≠ b.display := by
      intro c hc hcb
      obtain ⟨k, hk⟩ := List.getElem?_of_mem hc
      rw [List.getElem?_drop] at hk
      refine hlast (j + 1 + k) (groupCurve v dir g axis c) (by omega) ?_ ?_
      · rw [List.getElem?_map, hk]
        rfl
      · exact groupCurve_path_inj.2 hcb
    rw [dataSteps, hlayout] at hdata
    obtain ⟨hs', hholds⟩ := groupSteps_last hextract hname hg haxis hvalues hs hdata hsplit hafter
    exact ⟨hholds.readable, fun content hcontent => hholds.read hs' content hcontent⟩

/-- One plot with a curve for each of the values. -/
def sharingVariant (values : List Value) : Variant :=
  { sampleVariant with outerAxes := [], layout := .perGroup "n" values .discovery }

/-- The sample files with a new directory for the data files. -/
def dataTree : FileTree := sampleTree.set [.text "t", .text "d"] .dir

/-- Build the script of the plot. -/
def sharingScript (values : List Value) : Except Failure (Option Script) × RunState :=
  (samplePlotter sampleRender).buildScript (sharingVariant values) sampleResults "/t/d" .empty
    ⟨dataTree, []⟩

/-- A text before the integer that it reads as, and another integer. -/
def textFirst : List Value := [.text "1", .int 1, .int 2]

/-- With the text first, the file that it shares with an integer holds the row of the integer.
Another integer has a file of its own. -/
theorem buildScript_groupFiles_textFirst : ∃ script x y z,
    (sharingScript textFirst).1 = .ok (some script) ∧ script.series[0]? = some x ∧
      script.series[1]? = some y ∧ script.series[2]? = some z ∧ x.path = y.path ∧
      y.path ≠ z.path ∧
      (sharingScript textFirst).2.tree.read y.path = .ok (Text.Utf8.encode "5\t0.5\n") := by
  have hsome : (sharingScript textFirst).1.toOption.map Option.isSome = some true := by
    decide +kernel
  obtain ⟨built, hbuilt, hscript⟩ := Option.map_eq_some_iff.1 hsome
  obtain ⟨script, rfl⟩ := Option.isSome_iff_exists.1 hscript
  have hbuild : sharingScript textFirst = (.ok (some script), (sharingScript textFirst).2) :=
    Prod.ext (ok_of_toOption hbuilt) rfl
  obtain ⟨hlength, hshare, hrows⟩ :=
    @buildScript_groupFiles (samplePlotter sampleRender) (sharingVariant textFirst) sampleResults
      "/t/d" .empty "n" textFirst .discovery ⟨dataTree, []⟩ _ script rfl hbuild
  have hlength : script.series.length = 3 := hlength
  have hx : script.series[0]? = some script.series[0] := List.getElem?_eq_getElem (by omega)
  have hy : script.series[1]? = some script.series[1] := List.getElem?_eq_getElem (by omega)
  have hz : script.series[2]? = some script.series[2] := List.getElem?_eq_getElem (by omega)
  have hdiffer : script.series[1].path ≠ script.series[2].path := by
    simp [hshare 1 2 _ _ _ _ rfl rfl hy hz]
  refine ⟨script, _, _, _, ok_of_toOption hbuilt, hx, hy, hz, ?_, hdiffer, ?_⟩
  · exact (hshare 0 1 _ _ _ _ rfl rfl hx hy).2 (.inr ⟨1, .inr ⟨by decide +kernel, rfl⟩⟩)
  · have hscratch : Scratch sampleTree "/t/d" [.text "t", .text "d"] dataTree :=
      .of_createDir sampleTree_wellFormed (ok_of_toOption (by decide +kernel))
    have hlast : ∀ (k : Nat) (c : Series), 1 < k → script.series[k]? = some c →
        c.path ≠ script.series[1].path := by
      intro k c hk hc
      obtain ⟨hlt, rfl⟩ := List.getElem?_eq_some_iff.1 hc
      obtain rfl : k = 2 := by omega
      exact hdiffer.symm
    have hentries : sampleResults.select (Constraints.empty.union (.single "n" (.int 1))) none
        .discovery = [⟨"b_n=1", .ofList [("n", .int 1)]⟩] := by decide +kernel
    have hrow : plotData (sharingVariant textFirst).tag
        (Text.Utf8.encode "0\tLATENCYFRACTION\t5\t0.5\n") = Text.Utf8.encode "5\t0.5\n" := by
      decide +kernel
    obtain ⟨-, hread⟩ := hrows ⟨rfl, by decide, nofun, by decide, by decide +kernel⟩ sampleTree _
      hscratch 1 (.int 1) _ rfl hy hlast
    have hcontent : (sharingScript textFirst).2.tree.ReadsOutside [.text "t", .text "d"]
        "/r/1/x/b_n=1" (Text.Utf8.encode "0\tLATENCYFRACTION\t5\t0.5\n") :=
      ⟨[.text "r", .text "1", .text "x", .text "b_n=1"], ok_of_toOption (by decide +kernel),
        by decide, ok_of_toOption (by decide +kernel)⟩
    have hread := hread fun _ => Text.Utf8.encode "0\tLATENCYFRACTION\t5\t0.5\n"
    simp only [show (sharingVariant _).predicate = none from rfl, hentries] at hread
    rw [← hrow]
    simpa using hread fun e he => List.mem_singleton.1 he ▸ hcontent

/-- The text after the integer empties the file that they share. -/
theorem buildScript_sharedFile : Value.int 1 ≠ .text "1" ∧
    sampleResults.select (.single "n" (.int 1)) none .discovery =
      [⟨"b_n=1", .ofList [("n", .int 1)]⟩] ∧
    ((sharingScript [.int 1, .text "1"]).1.toOption.map fun script =>
      script.map fun script => script.series.map Series.path) =
        some (some ["/t/d/v_n=1", "/t/d/v_n=1"]) ∧
    (sharingScript [.int 1]).2.tree.read "/t/d/v_n=1" = .ok (Text.Utf8.encode "5\t0.5\n") ∧
    (sharingScript [.int 1, .text "1"]).2.tree.read "/t/d/v_n=1" = .ok [] :=
  ⟨by decide, by decide +kernel, by decide +kernel, ok_of_toOption (by decide +kernel),
    ok_of_toOption (by decide +kernel)⟩

end Plotter

end SweepPlot
