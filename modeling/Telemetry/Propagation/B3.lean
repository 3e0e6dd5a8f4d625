import Telemetry.Context.Basic
import Telemetry.Propagation.Carrier

/-!
# The B3 headers

B3 has two forms.  The single header `b3` holds the ids and the sampling state with dashes between
them, and the multiple headers hold one each.  Writing uses the forms that are asked for.  Reading
takes the single header wherever there is one, and then does not look at the others, even if it is
malformed.

A single header without a sampling state leaves the decision to the reader, who samples.  Among the
multiple headers a missing state means no, unless the debug flag is set.
-/

namespace Telemetry

/-- Which forms are written. -/
inductive B3Encoding where
  /-- One header for each part. -/
  | multiple
  /-- One header for all. -/
  | single
  /-- Both. -/
  | both
deriving DecidableEq, Repr

namespace B3Encoding

/-- Whether the single header is written. -/
def hasSingle : B3Encoding → Bool
  | .multiple => false
  | .single | .both => true

/-- Whether the multiple headers are written. -/
def hasMultiple : B3Encoding → Bool
  | .single => false
  | .multiple | .both => true

/-- The name of an encoding in descriptions. -/
def describe : B3Encoding → String
  | .multiple => "MultipleHeader"
  | .single => "SingleHeader"
  | .both => "SingleAndMultipleHeader"

end B3Encoding

namespace B3

/-- The header of the single form. -/
def singleName : String := "b3"

/-- The header of the trace id. -/
def traceName : String := "x-b3-traceid"

/-- The header of the span id. -/
def spanName : String := "x-b3-spanid"

/-- The header of the parent's span id, which is neither read nor written. -/
def parentName : String := "x-b3-parentspanid"

/-- The header of the sampling state. -/
def sampledName : String := "x-b3-sampled"

/-- The header of the debug flag. -/
def flagsName : String := "x-b3-flags"

/-! ## Reading -/

/-- Whether a sampling state says yes. -/
def saysSampled (state : String) : Bool := ["1", "true", "True", "d"].contains state

/-- The span context of two ids, if they are ids. -/
def build? (trace span : List Char) (sampled : Bool) : Option SpanContext := do
  let trace ← TraceId.ofHex? true trace
  let span ← SpanId.ofHex? span
  guard (trace.isValid && span.isValid)
  return .newRemote trace span (TraceFlags.none.withSampled sampled)

/-- The span context of a single header. -/
def readSingle? (header : List Char) : Option SpanContext :=
  match Text.fields '-' header with
  | [trace, span] => build? trace span true
  | [trace, span, state] | [trace, span, state, _] =>
    build? trace span (saysSampled (String.ofList state))
  | _ => none

/-- The span context of the multiple headers of a carrier. -/
def readMultiple? {γ : Type} [HeaderSource γ] (c : γ) : Option SpanContext := do
  let trace ← HeaderSource.get? c traceName
  let span ← HeaderSource.get? c spanName
  let sampled := (HeaderSource.get? c sampledName).any saysSampled
  let debug := HeaderSource.get? c flagsName == some "1"
  build? trace.toList span.toList (sampled || debug)

/-- The span context of a carrier. -/
def carried? {γ : Type} [HeaderSource γ] (c : γ) : Option SpanContext :=
  match HeaderSource.get? c singleName with
  | some header => readSingle? header.toList
  | none => readMultiple? c

/-- The context with the span context of a carrier, if there is one. -/
def extract {γ : Type} [HeaderSource γ] (cx : Context) (c : γ) : Context :=
  match carried? c with
  | some s => cx.withRemoteSpan s
  | none => cx

/-! ## Writing -/

/-- The sampling state of a span context. -/
def stateText (s : SpanContext) : String := if s.isSampled then "1" else "0"

/-- The single header of a span context. -/
def writeSingle (s : SpanContext) : List Char :=
  s.traceId.digits ++ '-' :: s.spanId.digits ++ '-' :: (stateText s).toList

/-- Writes the single header. -/
def injectSingle {γ : Type} [HeaderSink γ] (s : SpanContext) (c : γ) : γ :=
  HeaderSink.put c singleName (String.ofList (writeSingle s))

/-- Writes the multiple headers. -/
def injectMultiple {γ : Type} [HeaderSink γ] (s : SpanContext) (c : γ) : γ :=
  let c := HeaderSink.put c traceName s.traceId.text
  let c := HeaderSink.put c spanName s.spanId.text
  HeaderSink.put c sampledName (stateText s)

/-- Writes the headers of a context with a valid span context. -/
def inject {γ : Type} [HeaderSink γ] (encoding : B3Encoding) (cx : Context) (c : γ) : γ :=
  if cx.span.isValid then
    let c := if encoding.hasSingle then injectSingle cx.span c else c
    if encoding.hasMultiple then injectMultiple cx.span c else c
  else c

/-- The headers that an encoding may write. -/
def fields (encoding : B3Encoding) : List String :=
  (if encoding.hasSingle then [singleName] else [])
    ++ if encoding.hasMultiple then [traceName, spanName, parentName, sampledName] else []

/-! ## Tests -/

example : (readSingle? "80f198ee56343ba8-05e3ac9a4f6e3b90".toList).map (·.isSampled) = some true := by
  decide +kernel
example : (readSingle? "80f198ee56343ba8-05e3ac9a4f6e3b90-0-1".toList).map (·.isSampled) = some false := by
  decide +kernel
example : readSingle? "0".toList = none ∧ readSingle? "80f198ee56343ba8-05e3ac9a4f6e3b90-1-2-3".toList = none := by
  decide +kernel

end B3

end Telemetry
