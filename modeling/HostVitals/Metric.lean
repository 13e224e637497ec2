import HostVitals.Json
import HostVitals.Meter.Basic

/-!
# Metric values

What reading a metric gives: a gauge has a value, a meter has a count, or a snapshot
when it is served.
-/

namespace HostVitals

open Decimal (Layout Reading)

/-- The value of a gauge. Kernel counters are integers, averages are not. -/
inductive GaugeValue where
  | integer (n : Nat)
  | float (x : Float)
  deriving DecidableEq

namespace GaugeValue

/-- The value as a float. -/
def toFloat : GaugeValue → Float
  | .integer n => Float.ofNat n
  | .float x => x

/-- The value in JSON. -/
def json : GaugeValue → Json
  | .integer n => .integer n
  | .float x => .float x

/-- In a description numbers are written out in full from 0.0001 up to 10^16, powers of
ten have no plus sign, and a tie between digit strings goes to the greater. -/
def floatLayout : Layout where
  tie := .up
  plainFrom := -4
  plainBelow := 16
  positiveMark := "e"

/-- A float in a description. -/
def floatText (x : Float) : String :=
  match Reading.ofFloat x with
  | .nan => "NaN"
  | .infinite negative => if negative then "-inf" else "inf"
  | .zero negative => floatLayout.finite negative none
  | .finite negative magnitude => floatLayout.finite negative (some magnitude)

/-- A gauge with this value, described. -/
def describe : GaugeValue → String
  | .integer n => "Gauge(Integer(" ++ toString n ++ "))"
  | .float x => "Gauge(Float(" ++ floatText x ++ "))"

end GaugeValue

/-- What a collector reports for a metric. -/
inductive MetricValue where
  | gauge (value : GaugeValue)
  | count (n : Int64)
  deriving DecidableEq

/-- What is served for a metric. -/
inductive Sample where
  | gauge (value : GaugeValue)
  | meter (view : MeterSnapshot)
  deriving DecidableEq

/-- The members of a served sample. -/
def Sample.json : Sample → Json
  | .gauge value => .object [("type", .string "gauge"), ("value", value.json)]
  | .meter view => .object
      [("type", .string "meter"), ("count", .integer view.count.toInt),
       ("meanRate", .float view.mean), ("oneMinuteRate", .float view.one),
       ("fiveMinuteRate", .float view.five), ("fifteenMinuteRate", .float view.fifteen)]

end HostVitals
