import Telemetry.Number
import Telemetry.Trace.Span

/-!
# Metric points

What a collection reports: for one metric and one set of attributes a sum over an interval, or the
gauge value at a time.
-/

namespace Telemetry

/-- Which interval the sums of a reader cover. -/
inductive Temporality where
  /-- All that was measured since the reader was registered. -/
  | cumulative
  /-- What was measured since the collection before. -/
  | delta
deriving DecidableEq, Repr

/-- The name of a temporality in descriptions. -/
def Temporality.describe : Temporality → String
  | .cumulative => "Cumulative"
  | .delta => "Delta"

/-- A sum over an interval. -/
structure Sum where
  /-- Which interval it covers. -/
  temporality : Temporality
  /-- Whether it never goes down. -/
  isMonotonic : Bool
  /-- The start of the interval. -/
  start : Time
  /-- The end of the interval. -/
  time : Time
  /-- The sum. -/
  value : Number
deriving DecidableEq, Repr

/-- A value at a time. -/
structure Gauge where
  /-- When the value was read. -/
  time : Time
  /-- The value. -/
  value : Number
deriving DecidableEq, Repr

/-- What is reported for one set of attributes. -/
inductive Point where
  /-- A sum. -/
  | sum (sum : Sum)
  /-- A gauge. -/
  | gauge (gauge : Gauge)
deriving DecidableEq, Repr

/-- The number of a point. -/
def Point.value : Point → Number
  | .sum s => s.value
  | .gauge g => g.value

/-- One point of one metric. -/
structure Metric where
  /-- The name of the metric. -/
  name : String
  /-- What it measures. -/
  description : String
  /-- The unit of its values. -/
  unit : String
  /-- What the point is about. -/
  attributes : Attributes
  /-- The point. -/
  point : Point
deriving DecidableEq

end Telemetry
