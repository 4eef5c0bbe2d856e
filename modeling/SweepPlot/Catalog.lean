import SweepPlot.Variant

/-!
# The built-in variants

The catalog views a sweep over an open-loop microbenchmark whose results carry the component under
test `comp`, the work `work`, the number of workers `w`, the offered load `rate`, and the sizes
`keys` and `recs`.
-/

namespace SweepPlot.Catalog

/-- The components under test. -/
def components : List Value := ["arrange", "count", "maintain"].map .text

/-- Latency under increasing load on one worker. -/
def loadVaries : Variant :=
  { (((Variant.named "i_load_varies").filter "w" (.int 1)).across (.discovered "work")).across
      (.listed "comp" components) with
    layout := .perEntry (.ascending "rate") (.value "rate")
    emptyPolicy := .emit }

/-- Latency at a fixed load as workers are added. -/
def strongScaling : Variant :=
  { (((Variant.named "ii_strong_scaling").filter "rate" (.int 1000000)).across
      (.discovered "work")).across (.listed "comp" [.text "maintain"]) with
    layout := .perEntry (.ascending "w") (.value "w")
    template := { Template.latency with formatY := some "10^\x7b%T\x7d" }
    emptyPolicy := .emit }

/-- Latency with a load that grows with the number of workers. -/
def weakScaling : Variant :=
  { ((((Variant.named "iii_weak_scaling").filter "keys" (.int 10000000)).filter
      "recs" (.int 32000000)).across (.discovered "work")).across (.listed "comp" components) with
    layout := .perEntry (.ascending "w") (.value "w")
    predicate := some (.productEquals "rate" "w" 1000000) }

/-- Throughput against cores, with one curve for each component. -/
def throughput : Variant :=
  { ((Variant.named "iv_throughput").filter "rate" (.int 10000)).filter "work" (.int 4) with
    layout := .perGroup "comp" components (.ascending "w")
    template := .throughput
    tag := Extraction.throughputTag
    emptyPolicy := .emit }

/-- Latency on the fewest and on the most workers across amounts of work. -/
def amortization : Variant :=
  { ((((Variant.named "v_amortization").filter "keys" (.int 10000000)).filter
      "recs" (.int 32000000)).filter "rate" (.int 1000000)).across (.listed "comp" components) with
    layout := .perEntry (.ascending "w") (.pairs ["w", "work"])
    predicate := some (.oneOf "w" [.int 1, .int 32])
    template := { Template.latency with yrange := some "[0.001:1.01]" } }

/-- The built-in variants in the order in which they are plotted. -/
def all : List Variant := [loadVaries, strongScaling, weakScaling, throughput, amortization]

/-- Their names. -/
def names : List String := all.map (·.name)

/-- The built-in variant with a name. -/
def find (name : String) : Except Failure Variant :=
  match all.find? (·.name == name) with
  | some v => .ok v
  | none => .error (.unknownVariant name)

end SweepPlot.Catalog
