import Telemetry.Metric.Point
import Telemetry.Text.Hex

/-!
# Listings of metrics

A collection reports its streams in no particular order.  A *listing* puts them into one that does
not depend on how streams are kept: by name, description, unit, attributes, kind and value, and
last by the start of the interval.  Attributes and values are compared by texts that tell all of
them apart, doubles by their bits.
-/

namespace Telemetry

namespace Value

/-- The bits of a double as text. -/
def bitsText (x : Binary64) : String := String.ofList (Text.writeHex 16 x.bits.toNat)

mutual

/-- A value with its kind. -/
def listingText : Value → String
  | .bool b => "b:" ++ if b then "true" else "false"
  | .i64 n => "i:" ++ toString n.toInt
  | .u64 n => "u:" ++ toString n.toNat
  | .f64 x => "f:" ++ bitsText x
  | .str s => "s:" ++ s
  | .array values => "a:[" ++ String.intercalate "," (listingTexts values) ++ "]"
termination_by structural v => v

/-- Several values with their kinds. -/
def listingTexts : List Value → List String
  | [] => []
  | v :: vs => listingText v :: listingTexts vs
termination_by structural vs => vs

end

end Value

/-- Attributes with the kinds of their values. -/
def Attributes.listingText (a : Attributes) : String :=
  String.join (a.toList.map fun (name, value) => name ++ "=" ++ value.listingText ++ ";")

/-- A number with its kind.  Every NaN is written alike. -/
def Number.listingText : Number → String
  | .i64 n => "i64:" ++ toString n.toInt
  | .f64 x => if x.isNaN then "f64:nan" else "f64:" ++ Value.bitsText x

/-- The kind of a point. -/
def Point.kind : Point → String
  | .sum _ => "sum"
  | .gauge _ => "gauge"

/-- The start of the interval of a point, if it has one. -/
def Point.start? : Point → Option Time
  | .sum s => some s.start
  | .gauge _ => none

namespace Metric

/-- The texts that a metric is listed by. -/
def listingTexts (m : Metric) : List String :=
  [m.name, m.description, m.unit, m.attributes.listingText, m.point.kind, m.point.value.listingText]

/-- The order of listings. -/
def listingCompare (a b : Metric) : Ordering :=
  (compare a.listingTexts b.listingTexts).then (compare (a.point.start?.getD 0) (b.point.start?.getD 0))

/-- Metrics in the order of listings. -/
def listing (ms : List Metric) : List Metric := ms.mergeSort fun a b => (listingCompare a b).isLE

end Metric

end Telemetry
