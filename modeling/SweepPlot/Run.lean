import SweepPlot.Journal
import SweepPlot.Renderer
import SweepPlot.Variant

/-!
# Plotting a variant

`Plotter.plotVariant` makes the plots of a variant. For each grouping it puts the data of the
matching results into files of a scratch directory, writes a script and hands it to the renderer.
The first failure ends the run, and the scratch directory is removed however the run ends.
-/

namespace SweepPlot

/-- The run and experiment whose results are plotted, and where results and plots are. -/
structure RunContext where
  resultsDir : String
  plotsDir : String
  runId : String
  /-- The experiment within the run. -/
  experimentId : String
  deriving DecidableEq, Repr, Inhabited

namespace RunContext

/-- The directory of the results. -/
def resultsPath (c : RunContext) : String :=
  Path.join (Path.join c.resultsDir c.runId) c.experimentId

/-- The directory of the plots. -/
def plotsPath (c : RunContext) : String :=
  Path.join (Path.join c.plotsDir c.runId) c.experimentId

/-- The file of the plot that a variant makes for a grouping. -/
def outputPath (c : RunContext) (variant : String) (grouping : Constraints) : String :=
  Path.join c.plotsPath (variant ++ "_" ++ grouping.key ++ ".pdf")

end RunContext

/-- Where scratch directories are made, and the stamps that tell them apart, which are tried in
turn. -/
structure ScratchSpace where
  /-- The directory of all scratch directories. -/
  dir : String
  stamps : List String
  deriving DecidableEq, Repr, Inhabited

namespace ScratchSpace

/-- Make a scratch directory whose name is `before`, a stamp and `after`: its path and location.
A stamp that is taken is passed over. -/
def make (dir before after : String) (t : FileTree) :
    List String → Except Failure (String × Location) × FileTree
  | [] => (.error (.io (.atPath dir (.os .alreadyExists))), t)
  | stamp :: stamps =>
    let path := Path.join dir (before ++ stamp ++ after)
    match t.createDir path with
    | .ok (loc, t) => (.ok (path, loc), t)
    | .error (.os .alreadyExists) => make dir before after t stamps
    | .error fault => (.error (.io (.atPath path fault)), t)

end ScratchSpace

/-- Writes the rows with a tag of a file into another one and gives their number. -/
abbrev Extractor := String → String → String → WriteMode → FileTree → Except Failure Nat × FileTree

/-- What plotting needs besides results and variant. -/
structure Plotter where
  /-- What is plotted, and where results and plots are. -/
  context : RunContext
  /-- Where scratch directories are made. -/
  scratch : ScratchSpace
  extract : Extractor
  render : Renderer
  /-- Scripts are written but not rendered. -/
  dryRun : Bool

namespace Plotter

open RunM

/-- The number of the line pattern of the first curve. -/
def firstDashType : Nat := 2

/-- The style of the curve at an index, each with its own line pattern. -/
def entryStyle (index : Nat) : String :=
  "using 1:2 with lines lw 2 dt " ++ Text.Decimal.text (firstDashType + index)

/-- The style of a curve with the data of several results. -/
def groupStyle : String := "using 1:2:xtic(1) with linespoints"

/-- Take the rows of a result into a data file. -/
def takeRows (p : Plotter) (tag : String) (mode : WriteMode) (dataFile : String) (e : Entry) :
    RunM Unit := do
  let source := Path.join p.context.resultsPath e.filename
  let s ← get
  record (.extracting source tag dataFile mode s.tree)
  let rows ← changing (p.extract source tag dataFile mode)
  log .trace .extraction ("extracted " ++ toString rows ++ " " ++ tag ++ " rows from " ++ source ++
    " into " ++ dataFile)

/-- Write the data file of each entry; the curves, of which the first has the given index. -/
def entrySeries (p : Plotter) (v : Variant) (dir : String) (title : SeriesTitle) :
    Nat → List Entry → RunM (List Series)
  | _, [] => return []
  | index, e :: rest => do
    let dataFile := Path.join dir (v.name ++ "_" ++ e.filename)
    p.takeRows v.tag .truncate dataFile e
    let more ← p.entrySeries v dir title (index + 1) rest
    return ⟨dataFile, entryStyle index, title.text e.parameters⟩ :: more

/-- Take the rows of the entries into one data file, one entry after the other. -/
def takeAllRows (p : Plotter) (tag dataFile : String) : List Entry → RunM Unit
  | [] => return ()
  | e :: rest => do
    p.takeRows tag .append dataFile e
    p.takeAllRows tag dataFile rest

/-- Make an empty file. -/
def createFile (path : String) : RunM Unit :=
  changing fun t =>
    match t.openWrite true path with
    | .ok (_, t) => (.ok (), t)
    | .error fault => (.error (.io fault), t)

/-- Write the data file of each value of the group axis; the number of results that matched and the
curves. -/
def groupSeries (p : Plotter) (v : Variant) (results : ResultSet) (dir : String)
    (g : Constraints) (axis : String) (order : Order) : List Value → RunM (Nat × List Series)
  | [] => return (0, [])
  | value :: rest => do
    let group := g.union (.single axis value)
    let dataFile := Path.join dir (v.name ++ "_" ++ group.key)
    createFile dataFile
    let entries := results.select group v.predicate order
    p.takeAllRows v.tag dataFile entries
    let (matched, more) ← p.groupSeries v results dir g axis order rest
    return (entries.length + matched, ⟨dataFile, groupStyle, value.display⟩ :: more)

/-- Write the data files of a grouping; the number of results that matched and the curves. -/
def layoutSeries (p : Plotter) (v : Variant) (results : ResultSet) (dir : String)
    (g : Constraints) : RunM (Nat × List Series) :=
  match v.layout with
  | .perEntry order title => do
    let entries := results.select g v.predicate order
    let series ← p.entrySeries v dir title 0 entries
    return (entries.length, series)
  | .perGroup axis values order => p.groupSeries v results dir g axis order values

/-- Write the data files of a grouping and its script. There is no script if nothing matched and
the variant skips empty plots. -/
def buildScript (p : Plotter) (v : Variant) (results : ResultSet) (dir : String)
    (g : Constraints) : RunM (Option Script) := do
  let (matched, series) ← p.layoutSeries v results dir g
  if matched = 0 ∧ v.emptyPolicy = .skip then return none
  else return some ⟨v.template.directives, series⟩

/-- Make the directory of the plots. -/
def createPlotsDir (p : Plotter) : RunM Unit :=
  changing fun t =>
    match t.createDirAll p.context.plotsPath with
    | (.ok (), t) => (.ok (), t)
    | (.error fault, t) => (.error (.io fault), t)

/-- Hand a script to the renderer. -/
def renderScript (p : Plotter) (script output : String) : RunM Unit := do
  let s ← get
  record (.rendering script output s.tree)
  changing (p.render (s.journal.countP Event.isRendering) script output)

/-- Plot one grouping; the path of its plot, if there is one. -/
def plotGrouping (p : Plotter) (v : Variant) (results : ResultSet) (dir : String)
    (g : Constraints) : RunM (Option String) := do
  log .info .plotting (v.name ++ ": " ++ g.display)
  match ← p.buildScript v results dir g with
  | none =>
    log .debug .plotting (v.name ++ ": no results match " ++ g.display ++ ", skipping")
    return none
  | some script =>
    let output := p.context.outputPath v.name g
    log .debug .plotting (Text.trimEnd Text.isWhiteSpace script.text)
    if p.dryRun then
      log .info .plotting ("[DRY RUN] " ++ output)
    else
      p.createPlotsDir
      p.renderScript script.text output
      log .info .plotting output
    return some output

/-- Plot the groupings one after the other; the paths of their plots. -/
def plotGroupings (p : Plotter) (v : Variant) (results : ResultSet) (dir : String) :
    List Constraints → RunM (List String)
  | [] => return []
  | g :: rest => do
    let output ← p.plotGrouping v results dir g
    let more ← p.plotGroupings v results dir rest
    return output.toList ++ more

/-- Plot all groupings of a variant; the paths of the plots in the order in which they were
made. -/
def plotVariant (p : Plotter) (results : ResultSet) (v : Variant) : RunM (List String) := do
  let c := p.context
  let (dir, loc) ← changing fun t =>
    ScratchSpace.make p.scratch.dir (v.name ++ "-") ("-" ++ c.experimentId ++ "-" ++ c.runId) t
      p.scratch.stamps
  thenRemoving loc (p.plotGroupings v results dir (v.groupings results))

end Plotter

end SweepPlot
