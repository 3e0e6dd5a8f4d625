import Telemetry.Propagation.B3
import Telemetry.Propagation.BaggageHeader
import Telemetry.Propagation.Jaeger
import Telemetry.Propagation.TraceParent

/-!
# Propagators

A propagator writes a context into the headers of a request, and reads headers back into a context.
Each of the header formats is a propagator, and several propagators in a row are one.  On writing,
each writes into the same carrier, so a later one wins where two write the same header.  On reading,
each is given the context that the one before has made.  A propagator that finds nothing it can read
leaves the context as it is.
-/

namespace Telemetry

/-- A way to move contexts between services. -/
inductive Propagator where
  /-- Moves nothing. -/
  | noop
  /-- The trace context headers. -/
  | traceContext
  /-- The baggage header. -/
  | baggage
  /-- The B3 headers. -/
  | b3 (encoding : B3Encoding)
  /-- The Jaeger headers. -/
  | jaeger
  /-- Several, in order. -/
  | composite (parts : List Propagator)
deriving Repr, Inhabited

namespace Propagator

mutual

/-- Writes a context into a carrier. -/
def inject {γ : Type} [HeaderSink γ] (cx : Context) : Propagator → γ → γ
  | .noop, c => c
  | .traceContext, c => TraceParent.inject cx c
  | .baggage, c => BaggageHeader.inject cx c
  | .b3 encoding, c => B3.inject encoding cx c
  | .jaeger, c => Jaeger.inject cx c
  | .composite parts, c => injectAll cx parts c
termination_by structural p => p

/-- Writes a context with one propagator after the other. -/
def injectAll {γ : Type} [HeaderSink γ] (cx : Context) : List Propagator → γ → γ
  | [], c => c
  | p :: rest, c => injectAll cx rest (p.inject cx c)
termination_by structural ps => ps

end

mutual

/-- Reads a carrier into a context. -/
def extract {γ : Type} [HeaderSource γ] (c : γ) : Propagator → Context → Context
  | .noop, cx => cx
  | .traceContext, cx => TraceParent.extract cx c
  | .baggage, cx => BaggageHeader.extract cx c
  | .b3 _, cx => B3.extract cx c
  | .jaeger, cx => Jaeger.extract cx c
  | .composite parts, cx => extractAll c parts cx
termination_by structural p => p

/-- Reads a carrier with one propagator after the other. -/
def extractAll {γ : Type} [HeaderSource γ] (c : γ) : List Propagator → Context → Context
  | [], cx => cx
  | p :: rest, cx => extractAll c rest (p.extract c cx)
termination_by structural ps => ps

end

mutual

/-- The headers that a propagator may write, each once. -/
def fields : Propagator → List String
  | .noop => []
  | .traceContext => TraceParent.fields
  | .baggage => BaggageHeader.fields
  | .b3 encoding => B3.fields encoding
  | .jaeger => Jaeger.fields
  | .composite parts => (allFields parts).eraseDups
termination_by structural p => p

/-- The headers of several propagators, one after the other. -/
def allFields : List Propagator → List String
  | [] => []
  | p :: rest => p.fields ++ allFields rest
termination_by structural ps => ps

end

mutual

/-- The formats of a propagator from left to right. -/
def leaves : Propagator → List Propagator
  | .composite parts => allLeaves parts
  | p => [p]
termination_by structural p => p

/-- The formats of several propagators from left to right. -/
def allLeaves : List Propagator → List Propagator
  | [] => []
  | p :: rest => p.leaves ++ allLeaves rest
termination_by structural ps => ps

end

mutual

/-- A propagator as descriptions show it. -/
def describe : Propagator → String
  | .noop => "NoopPropagator"
  | .traceContext => "TraceContextPropagator"
  | .baggage => "BaggagePropagator"
  | .b3 encoding => Text.describeRecord "B3Propagator" [("encoding", encoding.describe)]
  | .jaeger => "JaegerPropagator"
  | .composite parts =>
    Text.describeRecord "CompositePropagator"
      [("propagators", Text.bracketed (describeAll parts)),
        ("fields", Text.bracketed ((allFields parts).eraseDups.map Text.quote))]
termination_by structural p => p

/-- Several propagators as descriptions show them. -/
def describeAll : List Propagator → List String
  | [] => []
  | p :: rest => p.describe :: describeAll rest
termination_by structural ps => ps

end

/-! ## Tests -/

example : (composite [.b3 .both, .composite [.b3 .single, .jaeger]]).fields
    = ["b3", "x-b3-traceid", "x-b3-spanid", "x-b3-parentspanid", "x-b3-sampled", "uber-trace-id"] := by decide
example : (composite [.noop]).describe
    = "CompositePropagator \x7b propagators: [NoopPropagator], fields: [] \x7d" := by decide +kernel

end Propagator

end Telemetry
