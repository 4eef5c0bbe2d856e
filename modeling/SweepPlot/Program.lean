import SweepPlot.Catalog
import SweepPlot.CommandLine
import SweepPlot.Listing
import SweepPlot.Log.Filter
import SweepPlot.Log.Line
import SweepPlot.Run

/-!
# The whole program

`Program.run` does what a command line asks for, from its arguments and a tree of files to exit
status, printed text, diagnostics and the tree of files afterwards.
-/

namespace SweepPlot

/-- What the program finds around it. -/
structure Environment where
  programs : Programs
  /-- Where scratch directories are made. -/
  scratch : ScratchSpace
  /-- The log filter that takes the place of the configured one. -/
  filter : Option String
  /-- The time that log lines show. -/
  now : String

/-- What the program leaves behind. -/
structure Outcome where
  status : Nat
  output : List String
  diagnostics : List String
  tree : FileTree
  deriving Repr

namespace Program

open RunM

/-- Name and version of the program. -/
def version : String := "benchplot 0.0.1-pre"

/-- Find the results in a directory. -/
def discoverResults (path : String) : RunM ResultSet := do
  let results ← ((← get).tree.discover path : Except Failure ResultSet)
  log .debug .discovery ("discovered " ++ toString results.size ++ " '" ++ results.label ++
    "' results in " ++ path)
  return results

/-- The line that shows an axis: its name in twelve columns, and its values. -/
def axisLine (a : Axis) : String :=
  "  " ++ a.name ++ String.ofList (List.replicate (12 - a.name.length) ' ') ++ " " ++
    ", ".intercalate (a.values.toList.map Value.display)

/-- The message that reports an axis. -/
def axisReport (a : Axis) : String :=
  "axis " ++ a.name ++ ": \x7b" ++ ", ".intercalate (a.values.toList.map Value.report) ++ "\x7d"

/-- Do something with each member of a list in order. -/
def each {α : Type} (f : α → RunM Unit) : List α → RunM Unit
  | [] => return ()
  | a :: rest => do
    f a
    each f rest

/-- The named variants, or the whole catalog if none is named. -/
def chosenVariants (names : List String) : Except Failure (List Variant) :=
  if names = [] then .ok Catalog.all else names.mapM Catalog.find

/-- Plot variants one after the other and print the paths of the plots of each; their number. -/
def plotVariants (p : Plotter) (results : ResultSet) : List Variant → RunM Nat
  | [] => return 0
  | v :: rest => do
    let outputs ← p.plotVariant results v
    each print outputs
    let more ← plotVariants p results rest
    return outputs.length + more

/-- Plot the named variants. The names are looked up before any file is. -/
def plot (env : Environment) (config : Config) (c : RunContext) (names : List String)
    (dryRun : Bool) : RunM Unit := do
  let variants ← (chosenVariants names : Except Failure (List Variant))
  let results ← discoverResults c.resultsPath
  each (fun a => log .debug .command (axisReport a)) results.axes
  let plotter : Plotter :=
    { context := c
      scratch := env.scratch
      extract := Extraction.extract
      render := PlottingProgram.renderer ⟨config.render.program⟩ env.programs
      dryRun := dryRun }
  let total ← plotVariants plotter results variants
  log .info .command (toString total ++ " plots from " ++ toString variants.length ++
    " variants" ++ if dryRun then " (DRY RUN)" else "")

/-- The run and experiment of an invocation, with the configured directories. -/
def contextOf (config : Config) (i : Invocation) : RunContext :=
  ⟨config.paths.resultsDir, config.paths.plotsDir, i.runId, i.experiment⟩

/-- Do what an invocation says. -/
def execute (env : Environment) (config : Config) (i : Invocation) : RunM Unit := do
  let c := contextOf config i
  log .info .command ("run " ++ c.runId ++ ", experiment " ++ c.experimentId)
  match i.command with
  | .variants => each print Catalog.names
  | .axes => do
    let results ← discoverResults c.resultsPath
    print ("label: " ++ results.label)
    each (fun a => print (axisLine a)) results.axes
  | .plot names dryRun => plot env config c names dryRun

/-- The printed lines of a journal. -/
def printed (journal : List Event) : List String :=
  journal.filterMap fun
    | .print line => some line
    | _ => none

/-- The log messages of a journal. -/
def logged (journal : List Event) : List LogEntry :=
  journal.filterMap fun
    | .log e => some e
    | _ => none

/-- The line that reports a directive that is passed over. -/
def directiveComplaint (text : String) (fault : DirectiveFault) : String :=
  "ignoring " ++ ConfigFault.name text ++ ": " ++ fault.message

/-- The log filter in force, and the complaints about directives that cannot be read. A filter
around the program counts only if all its directives can be read. -/
def filterInForce (env : Environment) (config : Config) : LogFilter × List String :=
  match env.filter.map LogFilter.read with
  | some (.ok f) => (f, [])
  | _ =>
    let (f, bad) := LogFilter.readLossy config.logging.level
    (f, bad.map fun (text, fault) => directiveComplaint text fault)

/-- The configuration of an invocation. -/
def configOf (i : Invocation) (t : FileTree) : Except ConfigError Config := do
  let config ← match i.config with
    | some path => Config.load path t
    | none => .ok Config.default
  return config.withDirs i.resultsDir i.plotsDir

/-- The directories of results and plots that an invocation works in. -/
def workPaths (i : Invocation) (t : FileTree) : List String :=
  match configOf i t with
  | .error _ => []
  | .ok config => [(contextOf config i).resultsPath, (contextOf config i).plotsPath]

/-- Do what an invocation says and show its journal. -/
def invoke (env : Environment) (i : Invocation) (t : FileTree) : Outcome :=
  match configOf i t with
  | .error e => ⟨1, [], ["Error: " ++ e.report IoFault.report], t⟩
  | .ok config =>
    let (result, s) := execute env config i ⟨t, []⟩
    let (filter, complaints) := filterInForce env config
    let lines := ((logged s.journal).filter filter.allows).map
      (LogLine.line config.logging env.now)
    match result with
    | .ok () => ⟨0, printed s.journal, complaints ++ lines, s.tree⟩
    | .error e => ⟨1, printed s.journal, complaints ++ lines ++ ["Error: " ++ e.report], s.tree⟩

/-- Do what the arguments ask for. Arguments that are refused give status 2. The text of the help,
which is made from the options, is left out. -/
def run (env : Environment) (args : List String) (t : FileTree) : Outcome :=
  match CommandLine.parse args with
  | none => ⟨2, [], [], t⟩
  | some .version => ⟨0, [version], [], t⟩
  | some .help => ⟨0, [], [], t⟩
  | some (.invoke i) => invoke env i t

end Program

end SweepPlot
