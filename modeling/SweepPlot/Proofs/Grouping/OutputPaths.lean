import SweepPlot.Proofs.FileTree.Scratch
import SweepPlot.Proofs.Grouping.Coverage
import SweepPlot.Proofs.Grouping.KeyReading
import SweepPlot.Run

/-!
# No plot overwrites another

The file of a plot is named by its variant and the key of its grouping, with `_` between them, which
is also what stands between the segments of a key. The name of the variant is still told from the
key, as names of variants hold no `=` and every segment does (`Legible.append_key_inj`). Groupings
of one variant differ in the value of an axis and so have different keys.

* `Variant.KeySafe` says what the texts of a variant have to be like.
* `Variant.legible_of_mem_groupings` says that the groupings are then legible.
* `RunContext.outputPaths_nodup` says that all plots of several variants have different paths.
-/

namespace SweepPlot

/-- Names in a directory are told apart by their paths. -/
theorem Path.join_inj {dir a b : String} (ha : isAbsolute a = false) (hb : isAbsolute b = false)
    (h : join dir a = join dir b) : a = b := by
  simp only [join, ha, hb, Bool.false_eq_true, if_false] at h
  split at h
  · exact (String.append_right_inj _).1 h
  · exact (String.append_right_inj _).1 h

namespace Constraints

/-- A key is empty or starts with a name and `=`. -/
theorem Legible.key_cases {c : Constraints} (h : c.Legible) :
    c.key = "" ∨ ∃ name rest, IsKeyName name ∧ c.key = name ++ "=" ++ rest := by
  unfold key
  cases hl : c.toList with
  | nil => exact .inl rfl
  | cons b l =>
    have hname : IsKeyName b.1 := (h b (hl ▸ List.mem_cons_self)).1
    refine .inr ⟨b.1, ?_⟩
    cases l with
    | nil => exact ⟨b.2.display, hname, String.intercalate_singleton⟩
    | cons b' l =>
      refine ⟨b.2.display ++ (segmentDelimiter.toString ++
        segmentDelimiter.toString.intercalate ((b' :: l).map segment)), hname, ?_⟩
      rw [List.map_cons, List.map_cons, String.intercalate_cons_cons, ← List.map_cons, segment]
      simp only [String.append_assoc]
      rfl

/-- A text before `_` and a key is told from the key if it holds no `=`: unless the key is empty,
the text ends at the last `_` before the first `=`. -/
theorem Legible.append_key_inj {a b : String} (ha : '=' ∉ a.toList) (hb : '=' ∉ b.toList)
    {c c' : Constraints} (hc : c.Legible) (hc' : c'.Legible)
    (h : a ++ "_" ++ c.key = b ++ "_" ++ c'.key) : a = b ∧ c = c' := by
  have hcut : ∀ {a name : String}, '=' ∉ a.toList → IsKeyName name → ∀ rest,
      Text.cut '=' (a ++ "_" ++ (name ++ "=" ++ rest)).toList =
        some (a.toList ++ '_' :: name.toList, rest.toList) := fun ha hname rest =>
    Text.cut_eq_some_iff.2 ⟨by simp, by simp [ha, hname.2]⟩
  have hab : a = b := by
    rcases hc.key_cases with hk | ⟨name, rest, hname, hk⟩ <;>
      rcases hc'.key_cases with hk' | ⟨name', rest', hname', hk'⟩ <;> rw [hk, hk'] at h
    · exact (String.append_left_inj _).1 ((String.append_left_inj _).1 h)
    · have hmem : '=' ∈ (a ++ "_" ++ "").toList := h ▸ by simp
      simp [ha] at hmem
    · have hmem : '=' ∈ (b ++ "_" ++ "").toList := h ▸ by simp
      simp [hb] at hmem
    · have hsame := hcut ha hname rest
      rw [h, hcut hb hname' rest'] at hsame
      obtain ⟨hbefore, -⟩ := Prod.mk.inj (Option.some.inj hsame)
      exact String.toList_inj.1 (Text.append_delimiter_inj hname'.1 hname.1 hbefore).1.symm
  subst hab
  exact ⟨rfl, hc.key_inj hc' ((String.append_right_inj _).1 h)⟩

end Constraints

namespace Variant

/-- The texts of a variant stand in the names of its plots so that these are told apart. -/
structure KeySafe (v : Variant) : Prop where
  name : '=' ∉ v.name.toList ∧ '/' ∉ v.name.toList
  base : v.base.Legible ∧ v.base.SlashFree
  axisName : ∀ axis ∈ v.outerAxes, IsKeyName axis.name ∧ '/' ∉ axis.name.toList
  distinct : (v.outerAxes.map OuterAxis.name).Nodup
  listed : ∀ name values, .listed name values ∈ v.outerAxes →
    values.Nodup ∧ ∀ value ∈ values, value.IsKeyValue ∧ '/' ∉ value.display.toList

variable {v : Variant} {results : ResultSet}

theorem KeySafe.slashFree (h : v.KeySafe) : v.SlashFree where
  base := h.base.2
  axisName axis haxis := (h.axisName axis haxis).2
  listed name values haxis value hvalue := ((h.listed name values haxis).2 value hvalue).2

/-- Values that are read off file names are legible without further conditions. -/
theorem legible_of_mem_groupings (h : v.KeySafe) : ∀ g ∈ v.groupings results, g.Legible := by
  refine forall_mem_groupings h.base.1 (fun name values haxis value hvalue => ?_)
    fun name haxis e he value hv => ?_
  · exact ⟨(h.axisName _ haxis).1, ((h.listed name values haxis).2 value hvalue).1⟩
  · obtain ⟨raw, rfl, hraw, -, -⟩ := ResultName.exists_raw_of_parse (results.parsed e he) hv
    exact ⟨(h.axisName _ haxis).1, Value.isKeyValue_iff.2
      ⟨Value.isCanonical_parse raw, Value.not_mem_display_parse (by decide) hraw⟩⟩

end Variant

namespace RunContext

variable {results : ResultSet} (c : RunContext)

/-- The name of a plot in the directory of the plots. -/
theorem isName_plot {v : Variant} (hv : v.KeySafe) {g : Constraints} (hg : g.SlashFree) :
    IsName (v.name ++ "_" ++ g.key ++ ".pdf") := by
  rw [String.append_assoc]
  exact isName_of_underscore hv.name.2 (by simp [hg.key])

/-- Plots of different variants or groupings have different paths. -/
theorem outputPath_inj {v v' : Variant} (hv : v.KeySafe) (hv' : v'.KeySafe) {g g' : Constraints}
    (hg : g.Legible ∧ g.SlashFree) (hg' : g'.Legible ∧ g'.SlashFree)
    (h : c.outputPath v.name g = c.outputPath v'.name g') : v.name = v'.name ∧ g = g' := by
  have hfile := Path.join_inj (Path.not_isAbsolute_of_isName (isName_plot hv hg.2))
    (Path.not_isAbsolute_of_isName (isName_plot hv' hg'.2)) h
  exact hg.1.append_key_inj hv.name.1 hv'.name.1 hg'.1 ((String.append_left_inj _).1 hfile)

/-- **No plot overwrites another.** The paths of all plots of several variants are different, and
each of them is that of a name in the directory of the plots. -/
theorem outputPaths_nodup (hfiles : ∀ e ∈ results.entries, '/' ∉ e.filename.toList)
    {variants : List Variant} (hnames : (variants.map Variant.name).Nodup)
    (hsafe : ∀ v ∈ variants, v.KeySafe) :
    (variants.flatMap fun v => (v.groupings results).map (c.outputPath v.name)).Nodup ∧
      ∀ v ∈ variants, ∀ g ∈ v.groupings results,
        ∃ x, IsName x ∧ c.outputPath v.name g = Path.join c.plotsPath x := by
  have hgroupings : ∀ v ∈ variants, ∀ g ∈ v.groupings results, g.Legible ∧ g.SlashFree :=
    fun v hv g hg => ⟨Variant.legible_of_mem_groupings (hsafe v hv) g hg,
      Variant.slashFree_of_mem_groupings (hsafe v hv).slashFree hfiles g hg⟩
  refine ⟨List.pairwise_flatMap.2 ⟨fun v hv => ?_, ?_⟩, fun v hv g hg => ?_⟩
  · have hdiffer := Variant.groupings_pairwise results (hsafe v hv).distinct
      fun name values haxis => ((hsafe v hv).listed name values haxis).1
    refine List.pairwise_map.2 (hdiffer.imp_of_mem fun {g g'} hg hg' hd heq => ?_)
    obtain ⟨-, rfl⟩ := c.outputPath_inj (hsafe v hv) (hsafe v hv) (hgroupings v hv g hg)
      (hgroupings v hv g' hg') heq
    exact Variant.Differ.irrefl g hd
  · refine (List.pairwise_map.1 hnames).imp_of_mem ?_
    intro v v' hv hv' hne path hpath path' hpath' heq
    obtain ⟨g, hg, rfl⟩ := List.mem_map.1 hpath
    obtain ⟨g', hg', rfl⟩ := List.mem_map.1 hpath'
    exact hne (c.outputPath_inj (hsafe v hv) (hsafe v' hv') (hgroupings v hv g hg)
      (hgroupings v' hv' g' hg') heq).1
  · exact ⟨_, isName_plot (hsafe v hv) (hgroupings v hv g hg).2, rfl⟩

/-- Two variants, of which one is named by the other and its axis. -/
def overlappingVariants : List Variant :=
  [(Variant.named "v").across (.discovered "n"),
    (Variant.named "v_n").across (.listed "m" [.int 1, .text "1=1"])]

theorem overlappingVariants_keySafe : ∀ v ∈ overlappingVariants, v.KeySafe := by
  intro v hv
  rcases List.mem_cons.1 hv with rfl | hv
  · exact ⟨by decide, ⟨by decide, nofun⟩, by decide, by decide,
      fun name values h => nomatch List.mem_singleton.1 h⟩
  · cases List.mem_singleton.1 hv
    refine ⟨by decide, ⟨by decide, nofun⟩, by decide, by decide, fun name values h => ?_⟩
    cases List.mem_singleton.1 h
    decide +kernel

/-- The plots `v_n=1`, `v_n_m=1` and `v_n_m=1=1` have different paths. -/
theorem outputPaths_nodup_overlapping :
    (overlappingVariants.flatMap fun v => (v.groupings Variant.repeatedResults).map
      ((RunContext.mk "results" "plots" "r" "e").outputPath v.name)).Nodup ∧
    (overlappingVariants.flatMap fun v => v.groupings Variant.repeatedResults).length = 3 :=
  ⟨(outputPaths_nodup _ (by decide) (by decide) overlappingVariants_keySafe).1, by decide⟩

end RunContext

end SweepPlot
