import SweepPlot.Main
import SweepPlot.Proofs.Extraction.Appending
import SweepPlot.Proofs.Grouping.Loops
import SweepPlot.Proofs.Grouping.OutputPaths
import SweepPlot.Proofs.Listing.Exact
import SweepPlot.Proofs.Program.Plotting
import SweepPlot.Proofs.Renderer.Filters
import SweepPlot.Proofs.ResultName.Canonical
import SweepPlot.Proofs.ResultSet.FirstFault
import SweepPlot.Proofs.Run.DryRun
import SweepPlot.Proofs.Run.GroupFiles
import SweepPlot.Proofs.Run.NameOrder
import SweepPlot.Proofs.Run.ScriptLines
import SweepPlot.Proofs.Script.Reading
import SweepPlot.Proofs.Selection.Multiples
import SweepPlot.Proofs.Selection.Narrowing
import SweepPlot.Proofs.ResultSet.Axes
import SweepPlot.Proofs.Constraints.Construction
import SweepPlot.Proofs.Config.Fields
import SweepPlot.Proofs.Toml.Unambiguous
import SweepPlot.Proofs.Config.Outcome
import SweepPlot.Proofs.Value.Numeral
