import SweepPlot.Text.Quoted

/-!
# Plot scripts

A script is a list of directives and one plot command with a list of series. It is written on one
line: each directive with `; ` after it, then `plot ` and the series with `, ` between them.
-/

namespace SweepPlot

/-- One curve of a plot. -/
structure Series where
  /-- The file that holds its data. -/
  path : String
  /-- How the data are drawn. -/
  style : String
  /-- Its entry in the key of the plot. -/
  title : String
  deriving DecidableEq, Repr, Inhabited

namespace Series

/-- The text of a series: the quoted path, the style and the quoted title. -/
def text (s : Series) : String :=
  String.ofList (Text.quote s.path.toList) ++ " " ++ s.style ++ " title " ++
    String.ofList (Text.quote s.title.toList)

end Series

/-- A plot script. -/
structure Script where
  /-- The settings before the plot command. -/
  directives : List String
  /-- The curves of the plot command. -/
  series : List Series
  deriving DecidableEq, Repr, Inhabited

namespace Script

/-- The script without settings and curves. -/
def empty : Script := ⟨[], []⟩

/-- The script with one more setting. -/
def addDirective (s : Script) (directive : String) : Script :=
  { s with directives := s.directives ++ [directive] }

/-- The script with one more curve. -/
def addSeries (s : Script) (series : Series) : Script :=
  { s with series := s.series ++ [series] }

/-- The text of the settings and of the word that starts the plot command. -/
def preamble (s : Script) : String :=
  String.join (s.directives.map (· ++ "; ")) ++ "plot "

/-- The text of a script. -/
def text (s : Script) : String :=
  s.preamble ++ ", ".intercalate (s.series.map Series.text) ++ "\n"

end Script

end SweepPlot
