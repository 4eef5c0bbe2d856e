import Mathlib.Data.List.Nodup
import SweepPlot.Proofs.CommandLine.Variants
import SweepPlot.Proofs.Failure.First
import SweepPlot.Proofs.FileTree.Ways
import SweepPlot.Proofs.Program.Printing

/-!
# Plotting several variants

The names on a command line are looked up before anything else is done, and the first one that is
not in the catalog ends the program. Then the results are found, and the variants are plotted in the
order of their names.

* `Plotted` says that variants are plotted one after the other, each with the paths of its plots
  printed before the next one starts.
* `plotVariants_cases` says that variants are either all plotted, or those before the first one that
  fails, and nothing is done after that.
* `run_plot` says what the program leaves behind: what it prints are the plots of the variants that
  were plotted completely.
-/

namespace SweepPlot

open RunM

/-! ## Names -/

namespace Catalog

theorem eq_of_name {v w : Variant} (hv : v ∈ all) (hw : w ∈ all) (h : v.name = w.name) : v = w := by
  have hnodup : (all.map (·.name)).Nodup := by decide
  exact List.inj_on_of_nodup_map hnodup hv hw h

theorem find_eq_ok_iff {name : String} {v : Variant} :
    find name = .ok v ↔ v ∈ all ∧ v.name = name := by
  unfold find
  constructor
  · intro h
    split at h
    · rename_i w hfind
      cases h
      exact ⟨List.mem_of_find?_eq_some hfind, by simpa using List.find?_some hfind⟩
    · cases h
  · rintro ⟨hv, rfl⟩
    cases hfind : all.find? (·.name == v.name) with
    | none => simpa using List.find?_eq_none.1 hfind v hv
    | some w =>
      have hname : w.name = v.name := by simpa using List.find?_some hfind
      rw [eq_of_name (List.mem_of_find?_eq_some hfind) hv hname]

theorem find_of_not_mem {name : String} (h : name ∉ names) :
    find name = .error (.unknownVariant name) := by
  cases hfind : find name with
  | ok v =>
    obtain ⟨hv, rfl⟩ := find_eq_ok_iff.1 hfind
    exact absurd (List.mem_map_of_mem hv) h
  | error e =>
    unfold find at hfind
    split at hfind <;> cases hfind
    rfl

end Catalog

namespace Program

/-- The first name that is not in the catalog is the failure. -/
theorem chosenVariants_of_not_mem {before after : List String} {n : String}
    (hbefore : ∀ m ∈ before, m ∈ Catalog.names) (hn : n ∉ Catalog.names) :
    chosenVariants (before ++ n :: after) = .error (.unknownVariant n) := by
  rw [chosenVariants, if_neg (by simp), mapM_eq_error_iff]
  refine ⟨before, n, after, rfl, fun m hm => ?_, Catalog.find_of_not_mem hn⟩
  obtain ⟨v, hv, rfl⟩ := List.mem_map.1 (hbefore m hm)
  exact ⟨v, Catalog.find_eq_ok_iff.2 ⟨hv, rfl⟩⟩

/-- Names in the catalog stand for its members, each for the one with this name. -/
theorem exists_mapM_find {names : List String} (h : ∀ n ∈ names, n ∈ Catalog.names) :
    ∃ vs, names.mapM Catalog.find = .ok vs ∧ vs.map Variant.name = names ∧
      ∀ v ∈ vs, v ∈ Catalog.all := by
  induction names with
  | nil => exact ⟨[], rfl, rfl, by simp⟩
  | cons n names ih =>
    rw [List.forall_mem_cons] at h
    obtain ⟨v, hv, rfl⟩ := List.mem_map.1 h.1
    obtain ⟨vs, hvs, hnames, hmem⟩ := ih h.2
    refine ⟨v :: vs, ?_, by rw [List.map_cons, hnames], List.forall_mem_cons.2 ⟨hv, hmem⟩⟩
    rw [mapM_cons_of_ok (Catalog.find_eq_ok_iff.2 ⟨hv, rfl⟩), hvs]
    rfl

/-- If all names are in the catalog, variants are chosen: those with the names, and without names
the whole catalog. -/
theorem exists_chosenVariants {names : List String} (h : ∀ n ∈ names, n ∈ Catalog.names) :
    ∃ vs, chosenVariants names = .ok vs ∧ (∀ v ∈ vs, v ∈ Catalog.all) ∧
      if names = [] then vs = Catalog.all else vs.map Variant.name = names := by
  by_cases hnil : names = []
  · simp only [chosenVariants, hnil, if_true]
    exact ⟨Catalog.all, rfl, fun _ hv => hv, rfl⟩
  · simp only [chosenVariants, hnil, if_false]
    obtain ⟨vs, hvs, hnames, hmem⟩ := exists_mapM_find h
    exact ⟨vs, hvs, hmem, hnames⟩

/-! ## Variants in order -/

variable {p : Plotter} {results : ResultSet} {s s' : RunState} {vs : List Variant}
  {outputs : List String}

/-- The variants are plotted one after the other, and the paths of the plots of each are printed:
state before, variants, printed paths and state afterwards. -/
inductive Plotted (p : Plotter) (results : ResultSet) :
    RunState → List Variant → List String → RunState → Prop
  /-- Without variants nothing happens. -/
  | nil (s : RunState) : Plotted p results s [] [] s
  /-- The first variant is plotted, its paths are printed, and the others follow. -/
  | cons {s s₁ s' : RunState} {v : Variant} {vs : List Variant} {outputs more : List String} :
    p.plotVariant results v s = (.ok outputs, s₁) →
    Plotted p results { s₁ with journal := s₁.journal ++ outputs.map .print } vs more s' →
    Plotted p results s (v :: vs) (outputs ++ more) s'

/-- The paths are those of the plots of the variants. -/
theorem Plotted.outputs_eq (h : Plotted p results s vs outputs s') :
    outputs = vs.flatMap fun v => p.plots v results := by
  induction h with
  | nil s => rfl
  | cons hv _ ih =>
    rw [List.flatMap_cons, ← ih, ← p.outputs_of_plotVariant _ _ (congrArg Prod.fst hv)]

/-- The paths are what is printed. -/
theorem Plotted.printed_eq (h : Plotted p results s vs outputs s') :
    printed s'.journal = printed s.journal ++ outputs := by
  induction h with
  | nil s => rw [List.append_nil]
  | @cons s s₁ s' v vs outputs more hv _ ih =>
    have hsilent := silent_plotVariant p v results s
    rw [hv] at hsilent
    rw [ih, printed_append, printed_map_print, hsilent, List.append_assoc]

theorem each_record {α : Type} (f : α → Event) (l : List α) (s : RunState) :
    each (fun a => record (f a)) l s =
      (.ok (), { s with journal := s.journal ++ l.map f }) := by
  induction l generalizing s with
  | nil => rw [List.map_nil, List.append_nil]; rfl
  | cons a l ih =>
    have hcons : each (fun a => record (f a)) (a :: l) s =
        each (fun a => record (f a)) l { s with journal := s.journal ++ [f a] } := rfl
    rw [hcons, ih, List.map_cons, List.append_assoc, List.singleton_append]

/-- When the first variant is plotted, its paths are printed and the others follow. -/
theorem plotVariants_cons_of_ok {v : Variant} (h : p.plotVariant results v s = (.ok outputs, s'))
    (vs : List Variant) :
    plotVariants p results (v :: vs) s =
      (plotVariants p results vs >>= fun more => pure (outputs.length + more))
        { s' with journal := s'.journal ++ outputs.map .print } := by
  have hprint : each print outputs s' =
      (.ok (), { s' with journal := s'.journal ++ outputs.map .print }) := each_record ..
  rw [plotVariants, bind_apply, h]
  simp only
  rw [bind_apply, hprint]

/-- Variants are all plotted, or a first one of them fails; then nothing is done after that. -/
theorem plotVariants_cases (p : Plotter) (results : ResultSet) (vs : List Variant)
    (s : RunState) :
    (∃ outputs s', Plotted p results s vs outputs s' ∧
      plotVariants p results vs s = (.ok outputs.length, s')) ∨
    ∃ done v rest outputs s₁ e s', vs = done ++ v :: rest ∧ Plotted p results s done outputs s₁ ∧
      p.plotVariant results v s₁ = (.error e, s') ∧
      plotVariants p results vs s = (.error e, s') := by
  induction vs generalizing s with
  | nil => exact .inl ⟨[], s, .nil s, rfl⟩
  | cons v vs ih =>
    rcases hv : p.plotVariant results v s with ⟨e | outputs, s₁⟩
    · refine .inr ⟨[], v, vs, [], s, e, s₁, rfl, .nil s, hv, ?_⟩
      rw [plotVariants, bind_apply, hv]
    · rw [plotVariants_cons_of_ok hv, bind_apply]
      rcases ih { s₁ with journal := s₁.journal ++ outputs.map .print } with
        ⟨more, s', hmore, heq⟩ | ⟨done, w, rest, more, s₂, e, s', rfl, hmore, hw, heq⟩ <;> rw [heq]
      · refine .inl ⟨outputs ++ more, s', .cons hv hmore, ?_⟩
        rw [List.length_append]
        rfl
      · exact .inr ⟨v :: done, w, rest, outputs ++ more, s₂, e, s', rfl, .cons hv hmore, hw, rfl⟩

/-! ## The program -/

variable {env : Environment} {config : Config} {i : Invocation} {t : FileTree}

/-- What an invocation plots with. -/
def plotterOf (env : Environment) (config : Config) (i : Invocation) (dryRun : Bool) : Plotter where
  context := contextOf config i
  scratch := env.scratch
  extract := Extraction.extract
  render := PlottingProgram.renderer ⟨config.render.program⟩ env.programs
  dryRun := dryRun

/-- Results that are found are reported, and nothing else is done. -/
theorem discoverResults_of_ok {path : String} (h : s.tree.discover path = .ok results) :
    ∃ entry, discoverResults path s =
      (.ok results, { s with journal := s.journal ++ [.log entry] }) := by
  have hget : (get : RunM RunState) s = (.ok s, s) := rfl
  rw [discoverResults, bind_apply, hget]
  simp only
  rw [bind_apply, lift_apply, h]
  exact ⟨_, rfl⟩

/-- From the first state to the second one nothing happens but log messages. -/
def Logged (s s' : RunState) : Prop :=
  s'.tree = s.tree ∧ ∃ entries : List LogEntry, s'.journal = s.journal ++ entries.map .log

theorem Logged.trans {s s₁ s₂ : RunState} (h : Logged s s₁) (h' : Logged s₁ s₂) : Logged s s₂ := by
  obtain ⟨ht, entries, hj⟩ := h
  obtain ⟨ht', entries', hj'⟩ := h'
  exact ⟨ht'.trans ht, entries ++ entries', by rw [hj', hj, List.map_append, List.append_assoc]⟩

theorem logged_record (s : RunState) (entry : LogEntry) :
    Logged s { s with journal := s.journal ++ [.log entry] } := ⟨rfl, [entry], rfl⟩

theorem Logged.printed_eq {s s' : RunState} (h : Logged s s') :
    printed s'.journal = printed s.journal := by
  obtain ⟨-, entries, hj⟩ := h
  have hnone : printed (entries.map .log) = [] := by
    refine List.filterMap_eq_nil_iff.2 fun event hevent => ?_
    obtain ⟨entry, -, rfl⟩ := List.mem_map.1 hevent
    rfl
  rw [hj, printed_append, hnone, List.append_nil]

theorem exists_each_log {α : Type} (level : LogLevel) (source : LogSource) (f : α → String)
    (l : List α) (s : RunState) :
    ∃ s', Logged s s' ∧ each (fun a => log level source (f a)) l s = (.ok (), s') := by
  have heach := each_record (fun a => .log ⟨level, source, f a⟩) l s
  refine ⟨_, ?_, heach⟩
  exact ⟨rfl, l.map fun a => ⟨level, source, f a⟩, by rw [List.map_map]; rfl⟩

variable {names : List String} {dryRun : Bool}

/-- An invocation to plot is reported before anything else. -/
theorem execute_plot (h : i.command = .plot names dryRun) (s : RunState) :
    ∃ s₁, Logged s s₁ ∧
      execute env config i s = plot env config (contextOf config i) names dryRun s₁ := by
  rw [execute, h]
  exact ⟨_, logged_record s _, rfl⟩

theorem plot_of_error {c : RunContext} {e : Failure} (h : chosenVariants names = .error e)
    (s : RunState) : plot env config c names dryRun s = (.error e, s) := by
  rw [plot, bind_apply, lift_apply, h]

/-- When the variants are chosen and the results are found, the variants are plotted, and a last
message reports the number of plots. -/
theorem plot_of_ok (hchosen : chosenVariants names = .ok vs)
    (hfound : s.tree.discover (contextOf config i).resultsPath = .ok results) :
    ∃ s₁, Logged s s₁ ∧ ∃ report : Nat → LogEntry,
      plot env config (contextOf config i) names dryRun s =
        (plotVariants (plotterOf env config i dryRun) results vs >>= fun total =>
          record (.log (report total))) s₁ := by
  obtain ⟨entry, hdiscover⟩ := discoverResults_of_ok hfound
  obtain ⟨s₁, hs₁, haxes⟩ := exists_each_log .debug .command axisReport results.axes
    { s with journal := s.journal ++ [.log entry] }
  rw [plot, bind_apply, lift_apply, hchosen]
  simp only
  rw [bind_apply, hdiscover]
  simp only
  rw [bind_apply, haxes]
  exact ⟨s₁, (logged_record s entry).trans hs₁, _, rfl⟩

/-- Variants that are plotted and reported, or a first one that fails. -/
theorem execute_of_ok (hcommand : i.command = .plot names dryRun)
    (hchosen : chosenVariants names = .ok vs)
    (hfound : t.discover (contextOf config i).resultsPath = .ok results) :
    ∃ s, Logged ⟨t, []⟩ s ∧
      ((∃ outputs s₁ s₂, Plotted (plotterOf env config i dryRun) results s vs outputs s₁ ∧
        Logged s₁ s₂ ∧ execute env config i ⟨t, []⟩ = (.ok (), s₂)) ∨
      ∃ done v rest outputs s₁ e s₂, vs = done ++ v :: rest ∧
        Plotted (plotterOf env config i dryRun) results s done outputs s₁ ∧
        (plotterOf env config i dryRun).plotVariant results v s₁ = (.error e, s₂) ∧
        execute env config i ⟨t, []⟩ = (.error e, s₂)) := by
  obtain ⟨s, hs, hexecute⟩ := @execute_plot env config i names dryRun hcommand ⟨t, []⟩
  obtain ⟨s₁, hs₁, report, hplot⟩ :=
    @plot_of_ok results s vs env config i names dryRun hchosen (hs.1 ▸ hfound)
  refine ⟨s₁, hs.trans hs₁, ?_⟩
  rw [hexecute, hplot, bind_apply]
  rcases plotVariants_cases (plotterOf env config i dryRun) results vs s₁ with
    ⟨outputs, s', hplotted, heq⟩ | ⟨done, v, rest, outputs, s₂, e, s', hvs, hplotted, hv, heq⟩ <;>
    rw [heq]
  · exact .inl ⟨outputs, s', _, hplotted, logged_record s' _, rfl⟩
  · exact .inr ⟨done, v, rest, outputs, s₂, e, s', hvs, hplotted, hv, rfl⟩

/-- The program ends with the failure: it is reported last, and the status says so. -/
def Fails (outcome : Outcome) (e : Failure) : Prop :=
  outcome.status = 1 ∧ outcome.diagnostics.getLast? = some ("Error: " ++ e.report)

variable {args : List String}

theorem run_of_ok (hparse : CommandLine.parse args = some (.invoke i))
    (hconfig : configOf i t = .ok config) (h : execute env config i ⟨t, []⟩ = (.ok (), s)) :
    (run env args t).status = 0 ∧ (run env args t).output = printed s.journal ∧
      (run env args t).tree = s.tree := by
  simp only [run, hparse, invoke, hconfig, h, true_and]

theorem run_of_error {e : Failure} (hparse : CommandLine.parse args = some (.invoke i))
    (hconfig : configOf i t = .ok config) (h : execute env config i ⟨t, []⟩ = (.error e, s)) :
    Fails (run env args t) e ∧ (run env args t).output = printed s.journal ∧
      (run env args t).tree = s.tree := by
  simp only [Fails, run, hparse, invoke, hconfig, h, List.getLast?_concat, true_and]

/-- **What plotting several variants leaves behind.** The first name that is not in the catalog ends
the program before anything is done. Otherwise, when the results are found, the variants with the
names are plotted in order, or the whole catalog if there are no names. What is printed are the
plots of the variants before the first one that fails, which ends the program with its failure and
with the files as it leaves them, or of all variants if none fails. -/
theorem run_plot (hparse : CommandLine.parse args = some (.invoke i))
    (hcommand : i.command = .plot names dryRun) (hconfig : configOf i t = .ok config) :
    (∀ before n after, names = before ++ n :: after → (∀ m ∈ before, m ∈ Catalog.names) →
      n ∉ Catalog.names →
      (execute env config i ⟨t, []⟩).1 = .error (.unknownVariant n) ∧
        Fails (run env args t) (.unknownVariant n) ∧ (run env args t).output = [] ∧
        (run env args t).tree = t) ∧
    ∀ results, (∀ n ∈ names, n ∈ Catalog.names) →
      t.discover (contextOf config i).resultsPath = .ok results →
      ∃ vs s, (∀ v ∈ vs, v ∈ Catalog.all) ∧
        (if names = [] then vs = Catalog.all else vs.map Variant.name = names) ∧
        Logged ⟨t, []⟩ s ∧
        ((∃ outputs s₁, Plotted (plotterOf env config i dryRun) results s vs outputs s₁ ∧
            outputs = (vs.flatMap fun v => (plotterOf env config i dryRun).plots v results) ∧
            (run env args t).status = 0 ∧ (run env args t).output = outputs ∧
            (run env args t).tree = s₁.tree) ∨
          ∃ done v rest outputs s₁ e s₂, vs = done ++ v :: rest ∧
            Plotted (plotterOf env config i dryRun) results s done outputs s₁ ∧
            outputs = (done.flatMap fun v => (plotterOf env config i dryRun).plots v results) ∧
            (plotterOf env config i dryRun).plotVariant results v s₁ = (.error e, s₂) ∧
            execute env config i ⟨t, []⟩ = (.error e, s₂) ∧ Fails (run env args t) e ∧
            (run env args t).output = outputs ∧ (run env args t).tree = s₂.tree) := by
  constructor
  · rintro before n after rfl hbefore hn
    obtain ⟨s, hs, hexecute⟩ := @execute_plot env config i _ dryRun hcommand ⟨t, []⟩
    rw [plot_of_error (chosenVariants_of_not_mem hbefore hn)] at hexecute
    obtain ⟨hfails, houtput, htree⟩ := run_of_error hparse hconfig hexecute
    exact ⟨by rw [hexecute], hfails, houtput.trans hs.printed_eq, htree.trans hs.1⟩
  · intro results hnames hfound
    obtain ⟨vs, hchosen, hmem, hvs⟩ := exists_chosenVariants hnames
    obtain ⟨s, hs, hcases⟩ := @execute_of_ok results vs env config i t names dryRun hcommand
      hchosen hfound
    refine ⟨vs, s, hmem, hvs, hs, hcases.imp ?_ ?_⟩
    · rintro ⟨outputs, s₁, s₂, hplotted, hs₂, hexecute⟩
      obtain ⟨hstatus, houtput, htree⟩ := run_of_ok hparse hconfig hexecute
      refine ⟨outputs, s₁, hplotted, hplotted.outputs_eq, hstatus, ?_, htree.trans hs₂.1⟩
      rw [houtput, hs₂.printed_eq, hplotted.printed_eq, hs.printed_eq]
      rfl
    · rintro ⟨done, v, rest, outputs, s₁, e, s₂, rfl, hplotted, hv, hexecute⟩
      obtain ⟨hfails, houtput, htree⟩ := run_of_error hparse hconfig hexecute
      refine ⟨done, v, rest, outputs, s₁, e, s₂, rfl, hplotted, hplotted.outputs_eq, hv, hexecute,
        hfails, ?_, htree⟩
      -- the variant that failed has printed nothing itself
      have hsilent := silent_plotVariant (plotterOf env config i dryRun) v results s₁
      rw [hv] at hsilent
      rw [houtput, hsilent, hplotted.printed_eq, hs.printed_eq]
      rfl

/-- A result that cannot be read to its end, and a directory for scratch directories. -/
def unreadableTree : FileTree where
  nodes :=
    let dir : Location := [.text "results", .text "1", .text "x"]
    [([.text "t"], .dir), ([.text "results"], .dir), ([.text "results", .text "1"], .dir),
      (dir, .dir), (dir ++ [.text "b_comp=count_rate=5_w=1_work=4"], .file [255])]
  workDir := []

/-- A program that reads all of a script and writes the start of a plot stands for every program. -/
def sampleEnvironment : Environment where
  programs _ _ := .ok fun _ => ⟨.ok (), Text.Utf8.encode "%PDF", [], .ok (.code 0)⟩
  scratch := ⟨"/t", ["0"]⟩
  filter := none
  now := ""

/-- Names of variants, of which the third one and no other takes rows of the result. -/
def sampleNames : List String :=
  ["ii_strong_scaling", "ii_strong_scaling", "i_load_varies", "iv_throughput"]

/-- A command line with these names. -/
def sampleArguments : List String :=
  "--run-id=1" :: "--experiment=x" :: "plot" :: (sampleNames.map ("--variant=" ++ ·) ++ [])

/-- The third variant fails when its first plot is made already, and the plots of the first two are
printed. -/
theorem run_plot_unreadable : ∃ vs done v rest outputs e, vs.map Variant.name = sampleNames ∧
    vs = done ++ v :: rest ∧
    Fails (run sampleEnvironment sampleArguments unreadableTree) e ∧
    (run sampleEnvironment sampleArguments unreadableTree).output = outputs ∧
    outputs = ["plots/1/x/ii_strong_scaling_comp=maintain_rate=1000000_work=4.pdf",
      "plots/1/x/ii_strong_scaling_comp=maintain_rate=1000000_work=4.pdf"] ∧
    (run sampleEnvironment sampleArguments unreadableTree).tree.read
      "plots/1/x/i_load_varies_comp=arrange_w=1_work=4.pdf" = .ok (Text.Utf8.encode "%PDF") := by
  have hparse : CommandLine.parse sampleArguments =
      some (.invoke ⟨"1", "x", none, none, none, .plot sampleNames false⟩) :=
    CommandLine.parse_plot "1" "x" sampleNames false
  have hsome : (unreadableTree.discover "results/1/x").toOption.isSome := by decide +kernel
  obtain ⟨results, hresults⟩ := Option.isSome_iff_exists.1 hsome
  obtain ⟨-, hrun⟩ := @run_plot sampleEnvironment _ _ unreadableTree _ _ _ hparse rfl rfl
  obtain ⟨vs, s, -, hvs, -, hcases⟩ := hrun results (by decide) (ok_of_toOption hresults)
  -- one evaluation of the program for all that it leaves behind
  have hleft : (fun o : Outcome => o.status = 1 ∧
      o.output = ["plots/1/x/ii_strong_scaling_comp=maintain_rate=1000000_work=4.pdf",
        "plots/1/x/ii_strong_scaling_comp=maintain_rate=1000000_work=4.pdf"] ∧
      (o.tree.read "plots/1/x/i_load_varies_comp=arrange_w=1_work=4.pdf").toOption =
        some (Text.Utf8.encode "%PDF"))
      (run sampleEnvironment sampleArguments unreadableTree) := by decide +kernel
  obtain ⟨hstatus, houtput, hread⟩ := hleft
  rcases hcases with ⟨-, -, -, -, hzero, -⟩ |
    ⟨done, v, rest, outputs, -, e, -, hsplit, -, -, -, -, hfails, hprinted, -⟩
  · rw [hstatus] at hzero
    cases hzero
  · exact ⟨vs, done, v, rest, outputs, e, hvs, hsplit, hfails, hprinted,
      hprinted.symm.trans houtput, ok_of_toOption hread⟩

end Program

end SweepPlot
