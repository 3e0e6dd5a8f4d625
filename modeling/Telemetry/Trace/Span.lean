import Telemetry.Trace.SpanContext
import Telemetry.Value

/-!
# Span records

The record of a finished span: who it was, when it ran, what was noted of it and how it ended.  A
span knows its parent by id only.
-/

namespace Telemetry

/-- A point in time, in nanoseconds since the Unix epoch. -/
abbrev Time := Int

/-- How a span ended. -/
inductive Status where
  /-- Nothing was said about it. -/
  | unset
  /-- It succeeded. -/
  | ok
  /-- It failed. -/
  | error (message : String)
deriving DecidableEq, Repr, Inhabited

/-- A finished span. -/
structure SpanRecord where
  /-- The trace it belongs to. -/
  traceId : TraceId
  /-- Its own id. -/
  spanId : SpanId
  /-- The span it is part of. -/
  parentId : Option SpanId
  /-- The flags of the trace. -/
  flags : TraceFlags
  /-- What it is called. -/
  name : String
  /-- The part of the program it comes from. -/
  target : String
  /-- When it began. -/
  start : Time
  /-- When it ended. -/
  finish : Time
  /-- What was noted of it. -/
  attributes : Attributes
  /-- How it ended. -/
  status : Status
deriving DecidableEq

/-- The span context of a finished span of this service. -/
def SpanRecord.context (s : SpanRecord) : SpanContext := ⟨s.traceId, s.spanId, s.flags, false, .empty⟩

end Telemetry
