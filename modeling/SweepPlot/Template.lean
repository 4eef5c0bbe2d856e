import SweepPlot.Script

/-!
# Plot templates

A template fixes page size, axes and key of a plot. `Template.script` writes its settings in a
fixed order; a setting that is absent is left out.
-/

namespace SweepPlot

/-- Page size, axes and key of a plot. -/
structure Template where
  size : String
  logscaleX : Bool
  logscaleY : Bool
  /-- Where the bottom margin ends. -/
  bottomMargin : Option String
  xrange : Option String
  yrange : Option String
  formatX : Option String
  formatY : Option String
  xlabel : Option String
  ylabel : Option String
  /-- Place and look of the key. -/
  key : Option String
  deriving DecidableEq, Repr, Inhabited

namespace Template

/-- Linear axes without ranges, labels or key. -/
def plain : Template where
  size := "6cm,4cm"
  logscaleX := false
  logscaleY := false
  bottomMargin := some "screen 0.2"
  xrange := none
  yrange := none
  formatX := none
  formatY := none
  xlabel := none
  ylabel := none
  key := none

/-- The complementary distribution of latencies in nanoseconds, both axes logarithmic. -/
def latency : Template :=
  { plain with
    logscaleX := true
    logscaleY := true
    xrange := some "[50000:5000000000.0]"
    yrange := some "[*:1.01]"
    formatX := some "10^\x7b%T\x7d"
    xlabel := some "nanoseconds"
    ylabel := some "complementary cdf"
    key := some "left bottom Left reverse font \",10\"" }

/-- Throughput against the number of cores, both axes linear. -/
def throughput : Template :=
  { plain with
    xrange := some "[2:34]"
    xlabel := some "cores"
    ylabel := some "throughput (records/s)"
    key := some "left top Left reverse font \",10\"" }

/-- The settings of a template in the order in which they are written. -/
def directives (t : Template) : List String :=
  let quoted (head text : String) : String := head ++ " \"" ++ text ++ "\""
  ["set terminal pdf size " ++ t.size] ++
    (if t.logscaleX then ["set logscale x"] else []) ++
    (if t.logscaleY then ["set logscale y"] else []) ++
    (t.bottomMargin.map ("set bmargin at " ++ ·)).toList ++
    (t.xrange.map ("set xrange " ++ ·)).toList ++
    (t.formatX.map (quoted "set format x")).toList ++
    (t.yrange.map ("set yrange " ++ ·)).toList ++
    (t.formatY.map (quoted "set format y")).toList ++
    (t.xlabel.map (quoted "set xlabel")).toList ++
    (t.ylabel.map (quoted "set ylabel")).toList ++
    (t.key.map ("set key " ++ ·)).toList

/-- The script with the settings of a template and no curve yet. -/
def script (t : Template) : Script := ⟨t.directives, []⟩

end Template

end SweepPlot
