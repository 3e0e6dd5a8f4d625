import Telemetry.Trace.Id
import Telemetry.Trace.State

/-!
# Span contexts

What one service tells the next about the span it works in: the ids of the trace and of the span,
the flags, whether the span lives in another service, and the trace state.  A span context without
both ids stands for none.
-/

namespace Telemetry

/-- The flag byte of a trace, of which the last bit says that the trace is sampled. -/
structure TraceFlags where
  /-- The byte. -/
  byte : BitVec 8
deriving DecidableEq, Repr

namespace TraceFlags

/-- No flag. -/
def none : TraceFlags := ⟨0⟩

/-- The sampled flag alone. -/
def sampled : TraceFlags := ⟨1⟩

instance : Inhabited TraceFlags := ⟨none⟩

/-- Whether the trace is sampled. -/
def isSampled (f : TraceFlags) : Bool := f.byte &&& 1 != 0

/-- The flags with the sampled bit set or cleared. -/
def withSampled (f : TraceFlags) (sampled : Bool) : TraceFlags :=
  if sampled then ⟨f.byte ||| 1⟩ else ⟨f.byte &&& ~~~1⟩

/-- The sampled bit alone, the only one that other services are told. -/
def masked (f : TraceFlags) : TraceFlags := ⟨f.byte &&& 1⟩

end TraceFlags

/-- The identity of a span as it is passed on. -/
structure SpanContext where
  /-- The trace. -/
  traceId : TraceId
  /-- The span. -/
  spanId : SpanId
  /-- The flags of the trace. -/
  flags : TraceFlags
  /-- Whether the span belongs to another service. -/
  isRemote : Bool
  /-- The data of vendors. -/
  state : TraceState
deriving DecidableEq, Repr

namespace SpanContext

/-- The span context that stands for none. -/
def invalid : SpanContext := ⟨.invalid, .invalid, .none, false, .empty⟩

instance : Inhabited SpanContext := ⟨invalid⟩

/-- A span of another service, without trace state. -/
def newRemote (traceId : TraceId) (spanId : SpanId) (flags : TraceFlags) : SpanContext :=
  ⟨traceId, spanId, flags, true, .empty⟩

/-- Whether there is a span: both ids are valid. -/
def isValid (c : SpanContext) : Bool := c.traceId.isValid && c.spanId.isValid

/-- Whether the trace is sampled. -/
def isSampled (c : SpanContext) : Bool := c.flags.isSampled

end SpanContext

/-! ## Laws -/

theorem TraceFlags.masked_eq (f : TraceFlags) :
    f.masked = if f.isSampled then TraceFlags.sampled else TraceFlags.none := by
  obtain ⟨b⟩ := f
  revert b
  decide +kernel

/-! ## Tests -/

example : (TraceFlags.mk 0xfe).withSampled true = ⟨0xff⟩ ∧ (TraceFlags.mk 0xff).withSampled false = ⟨0xfe⟩ := by
  decide
example : SpanContext.invalid.isValid = false
    ∧ (SpanContext.newRemote ⟨1⟩ ⟨0⟩ .none).isValid = false := by decide

end Telemetry
