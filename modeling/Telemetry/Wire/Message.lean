import Telemetry.Metric.Point
import Telemetry.Wire.Piece

/-!
# What is sent to a collector

A connection to a collector begins with a handshake, which tells what the records are about.  After
it comes one message for each record, which is a finished span or a metric point.  All of it is
written in the order of the fields, without names.  A choice is written as its number, a list or a
map with its size in front.
-/

namespace Telemetry

namespace Wire

/-! ## Values -/

mutual

/-- A value: its kind and its content. -/
def value : Value → List Piece
  | .bool b => number 0 ++ truth b
  | .i64 n => number 1 ++ signed n.toInt
  | .u64 n => number 2 ++ number n.toNat
  | .f64 x => number 3 ++ [.bytes (bigEndian 8 x.bits.toNat)]
  | .str s => number 4 ++ text s
  | .array vs => number 5 ++ number vs.length ++ values vs
termination_by structural v => v

/-- Several values in a row. -/
def values : List Value → List Piece
  | [] => []
  | v :: vs => value v ++ values vs
termination_by structural vs => vs

end

/-- Attributes. -/
def attributes (a : Attributes) : List Piece := several (fun e => text e.1 ++ value e.2) a.toList

/-! ## Spans -/

/-- A trace id. -/
def traceId (t : TraceId) : List Piece := number t.value.toNat

/-- A span id. -/
def spanId (s : SpanId) : List Piece := number s.value.toNat

/-- The flags of a trace. -/
def flags (f : TraceFlags) : List Piece := byte f.byte.toNat

/-- How a span ended. -/
def status : Status → List Piece
  | .unset => number 0
  | .ok => number 1
  | .error message => number 2 ++ text message

/-- A finished span. -/
def span (s : SpanRecord) : List Piece :=
  traceId s.traceId ++ spanId s.spanId ++ optional spanId s.parentId ++ flags s.flags ++ text s.name
    ++ text s.target ++ time s.start ++ time s.finish ++ attributes s.attributes ++ status s.status

/-- A span context. -/
def spanContext (c : SpanContext) : List Piece :=
  traceId c.traceId ++ spanId c.spanId ++ flags c.flags ++ truth c.isRemote
    ++ several (fun m => text m.1 ++ text m.2) c.state.members

/-! ## Metrics -/

/-- A measured number. -/
def measured : Number → List Piece
  | .i64 n => number 0 ++ signed n.toInt
  | .f64 x => number 1 ++ [.bytes (bigEndian 8 x.bits.toNat)]

/-- Which interval a sum covers. -/
def temporality : Temporality → List Piece
  | .cumulative => number 0
  | .delta => number 1

/-- A point. -/
def point : Point → List Piece
  | .sum s =>
    number 0 ++ temporality s.temporality ++ truth s.isMonotonic ++ time s.start ++ time s.time
      ++ measured s.value
  | .gauge g => number 1 ++ time g.time ++ measured g.value

/-- A metric point. -/
def metric (m : Metric) : List Piece :=
  text m.name ++ text m.description ++ text m.unit ++ attributes m.attributes ++ point m.point

/-! ## Messages -/

/-- What describes the sender of records. -/
abbrev Handshake := SortedMap String String

/-- A record that is sent. -/
inductive Message where
  /-- A finished span. -/
  | span (record : SpanRecord)
  /-- A metric point. -/
  | metric (record : Metric)
deriving DecidableEq

/-- A handshake. -/
def handshake (h : Handshake) : List Piece := several (fun e => text e.1 ++ text e.2) h.toList

/-- A message. -/
def message : Message → List Piece
  | .span s => number 0 ++ span s
  | .metric m => number 1 ++ metric m

end Wire

end Telemetry
