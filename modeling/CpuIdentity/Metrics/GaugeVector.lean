import CpuIdentity.Metrics.Exposition
import CpuIdentity.Text.Order

/-!
# Gauge vectors

A gauge vector is a metric with a gauge for each combination of values of its labels. A registry knows
the metrics that are published together, each name at most once; what it gathers of them is sorted,
the families and the labels of a series by name, the series of a family by the values of their labels.
-/

namespace CpuIdentity

open Exposition

/-- A metric that has a gauge for each combination of values of its `n` labels. -/
structure GaugeVector (n : Nat) where
  name : Text
  help : Text
  /-- The labels that have the same value on every series. -/
  fixed : List Label
  /-- The names of the labels whose values tell the series apart. -/
  labelNames : Vector Text n
  /-- The gauges under the values of these labels. -/
  gauges : List (Vector Text n × Nat)
  deriving DecidableEq, Repr

namespace GaugeVector

variable {n : Nat}

/-- A gauge vector without gauges. Its name has to be a metric name. -/
def create (name help : Text) (fixed : List Label) (labelNames : Vector Text n) :
    Except Error (GaugeVector n) :=
  if isMetricName name then .ok ⟨name, help, fixed, labelNames, []⟩
  else .error (.metric (.other ("'" ++ name ++ "' is not a valid metric name")))

def reset (v : GaugeVector n) : GaugeVector n := { v with gauges := [] }

/-- Sets the gauge under some label values, which is new if there was none. -/
def set (v : GaugeVector n) (values : Vector Text n) (value : Nat) : GaugeVector n :=
  { v with gauges := (values, value) :: v.gauges.filter fun g => g.1 ≠ values }

/-- The labels of the gauge under some label values. -/
def labels (v : GaugeVector n) (values : Vector Text n) : List Label :=
  sortBy Text.before Label.name (v.fixed ++ (v.labelNames.zipWith Label.mk values).toList)

/-- The family of a gauge vector, with a series for each gauge. -/
def collect (v : GaugeVector n) : Family :=
  ⟨v.name, v.help, .gauge, v.gauges.map fun g => ⟨v.labels g.1, g.2⟩⟩

end GaugeVector

/-- A registry, by the names of the metrics that are registered in it. -/
structure Registry where
  names : List Text
  deriving DecidableEq, Repr

namespace Registry

def empty : Registry := ⟨[]⟩

/-- Registers a metric under its name, which must be new. -/
def register (r : Registry) (name : Text) : Except Error Registry :=
  if name ∈ r.names then .error (.metric .registered) else .ok ⟨r.names ++ [name]⟩

/-- The series of a family by the values of their labels. -/
def sortSeries (f : Family) : Family :=
  { f with series := sortBy (lexBefore Text.before) (fun s => s.labels.map Label.value) f.series }

/-- The families of the registered metrics, of all that metrics give. -/
def collected (r : Registry) (fs : List Family) : List Family :=
  r.names.filterMap fun name => fs.find? fun f => f.name = name

/-- What a registry shows of the families that metrics give: the registered ones with a series, by
    name. -/
def gather (r : Registry) (fs : List Family) : List Family :=
  sortBy Text.before Family.name (((r.collected fs).filter fun f => f.series ≠ []).map sortSeries)

end Registry

end CpuIdentity
