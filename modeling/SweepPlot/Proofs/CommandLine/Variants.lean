import SweepPlot.CommandLine

/-!
# Command lines that name variants

Every list of names can be asked for, in any order and with repetitions: the names of the options
`--variant` are those that are plotted, in the order of the options (`parse_plot`).
-/

namespace SweepPlot.CommandLine

open Text

theorem Word.ofArgument_long {name : String} (hname : '=' ∉ name.toList) (value : String) :
    ofArgument ("--" ++ name ++ "=" ++ value) = .long name (some value) := by
  have hlist : ("--" ++ name ++ "=" ++ value).toList =
      '-' :: '-' :: (name.toList ++ '=' :: value.toList) := by simp
  have hcut : cut '=' (name.toList ++ '=' :: value.toList) = some (name.toList, value.toList) :=
    cut_eq_some_iff.2 ⟨rfl, hname⟩
  obtain ⟨c, rest, hrest⟩ := List.exists_cons_of_ne_nil
    (show name.toList ++ '=' :: value.toList ≠ [] by simp)
  have hsplit : splitOnce '=' (String.ofList (c :: rest)) = some (name, value) := by
    rw [← hrest]
    simp [splitOnce, hcut]
  rw [ofArgument, hlist, hrest]
  simp only [hsplit]

/-- The names of variants are kept in order. -/
theorem readPlot_variants (g : General) (variants names rest : List String) (dryRun : Bool) :
    readPlot g variants dryRun false (names.map ("--variant=" ++ ·) ++ rest) =
      readPlot g (variants ++ names) dryRun false rest := by
  induction names generalizing variants with
  | nil => rw [List.append_nil]; rfl
  | cons name names ih =>
    have hword : Word.ofArgument ("--variant=" ++ name) = .long "variant" (some name) :=
      @Word.ofArgument_long "variant" (by decide) name
    rw [List.map_cons, List.cons_append, readPlot, hword]
    simp [ih]

/-- For every list of names there is a command line that asks for the variants with them. -/
theorem parse_plot (runId experiment : String) (names : List String) (dryRun : Bool) :
    parse (("--run-id=" ++ runId) :: ("--experiment=" ++ experiment) :: "plot" ::
      (names.map ("--variant=" ++ ·) ++ if dryRun then ["--dry-run"] else [])) =
      some (.invoke ⟨runId, experiment, none, none, none, .plot names dryRun⟩) := by
  have hrun : Word.ofArgument ("--run-id=" ++ runId) = .long "run-id" (some runId) :=
    @Word.ofArgument_long "run-id" (by decide) runId
  have hexperiment : Word.ofArgument ("--experiment=" ++ experiment) =
      .long "experiment" (some experiment) :=
    @Word.ofArgument_long "experiment" (by decide) experiment
  have hplot : Word.ofArgument "plot" = .plain "plot" := by decide
  have hdry : Word.ofArgument "--dry-run" = .long "dry-run" none := by decide
  rw [parse, readGeneral, hrun]
  show readGeneral ⟨some runId, none, none, none, none⟩ none _ = _
  rw [readGeneral, hexperiment]
  show readGeneral ⟨some runId, some experiment, none, none, none⟩ none _ = _
  rw [readGeneral, hplot]
  show readPlot _ [] false false _ = _
  rw [readPlot_variants, List.nil_append]
  cases dryRun with
  | false => rfl
  | true =>
    simp only [if_true, readPlot, hdry]
    rfl

end SweepPlot.CommandLine
