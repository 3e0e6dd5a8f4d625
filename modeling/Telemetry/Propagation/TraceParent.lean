import Telemetry.Context.Basic
import Telemetry.Propagation.Carrier

/-!
# The trace context headers

The header `traceparent` holds a version, a trace id, a span id and the flag byte, all in lower case
hexadecimal, and `tracestate` the trace state.

Version `00` ends with the flags.  A later version may go on behind them with a dash, and what
follows is not read.  Version `ff` is none.  Of the flags only the sampled bit is taken, since the
others have no meaning yet.  Blanks in front of the header and behind it do not count, with one
exception: right behind the flags a blank that is not a line feed does count, as the beginning of
more data, and more data that does not begin with a dash makes the header unreadable.
-/

namespace Telemetry

namespace TraceParent

/-- The header of the ids and flags. -/
def headerName : String := "traceparent"

/-- The header of the trace state. -/
def stateHeaderName : String := "tracestate"

/-! ## Reading -/

/-- A number of lower case hexadecimal digits, and what follows them. -/
def lowerHex? (count : Nat) (cs : List Char) : Option (List Char × List Char) :=
  let digits := cs.take count
  if digits.length = count ∧ digits.all Text.isLowerHex then some (digits, cs.drop count) else none

/-- What follows a dash. -/
def dash? : List Char → Option (List Char)
  | '-' :: cs => some cs
  | _ => none

/-- The parts of a header. -/
structure Parts where
  /-- The two digits of the version. -/
  version : List Char
  /-- The 32 digits of the trace id. -/
  trace : List Char
  /-- The 16 digits of the span id. -/
  span : List Char
  /-- The two digits of the flags. -/
  flags : List Char
  /-- What stands behind the flags. -/
  tail : List Char
deriving DecidableEq, Repr

/-- A header cut into its parts. -/
def Parts.ofHeader? (header : List Char) : Option Parts := do
  let (version, cs) ← lowerHex? 2 (Text.trimLeft header)
  let (trace, cs) ← dash? cs >>= lowerHex? 32
  let (span, cs) ← dash? cs >>= lowerHex? 16
  let (flags, tail) ← dash? cs >>= lowerHex? 2
  return ⟨version, trace, span, flags, tail⟩

/-- The data behind the flags, which is empty when only blanks follow that begin with a line feed.
Data that holds a line feed cannot be read. -/
def remainder? : List Char → Option (List Char)
  | [] => some []
  | c :: cs =>
    match Text.trimRight (c :: cs) with
    | [] => some (if c = '\n' then [] else [c])
    | body => if '\n' ∈ body then none else some body

/-- Whether a version may have this data behind the flags. -/
def allows (version : List Char) : List Char → Bool
  | [] => true
  | c :: _ => version != ['0', '0'] && c == '-'

/-- Whether the parts are those of a header of a known shape. -/
def Parts.isReadable (parts : Parts) : Bool :=
  parts.version != ['f', 'f'] && (remainder? parts.tail).any (allows parts.version)

/-- The span context that a header writes, with a given trace state. -/
def read? (header : List Char) (state : TraceState) : Option SpanContext := do
  let parts ← Parts.ofHeader? header
  guard parts.isReadable
  let trace ← TraceId.ofHex? false parts.trace
  let span ← SpanId.ofHex? parts.span
  guard (trace.isValid && span.isValid)
  let flags : TraceFlags := ⟨BitVec.ofNat 8 (Text.readHex parts.flags)⟩
  return ⟨trace, span, flags.masked, true, state⟩

/-- The trace state of a carrier: that of all its headers, joined. -/
def carriedState {γ : Type} [HeaderSource γ] (c : γ) : TraceState :=
  match HeaderSource.getAll? c stateHeaderName with
  | some values => TraceState.ofHeader (String.ofList (Text.join ',' (values.map String.toList)))
  | none => .empty

/-- The span context of a carrier. -/
def carried? {γ : Type} [HeaderSource γ] (c : γ) : Option SpanContext :=
  (HeaderSource.get? c headerName).bind fun header => read? header.toList (carriedState c)

/-- The context with the span context of a carrier, if there is one. -/
def extract {γ : Type} [HeaderSource γ] (cx : Context) (c : γ) : Context :=
  match carried? c with
  | some s => cx.withRemoteSpan s
  | none => cx

/-! ## Writing -/

/-- The header of a span context. -/
def write (s : SpanContext) : List Char :=
  ['0', '0', '-'] ++ s.traceId.digits ++ '-' :: s.spanId.digits
    ++ '-' :: Text.writeHex 2 s.flags.byte.toNat

/-- Writes the headers of a context with a valid span context.  An empty trace state is not
written. -/
def inject {γ : Type} [HeaderSink γ] (cx : Context) (c : γ) : γ :=
  if cx.span.isValid then
    let c := HeaderSink.put c headerName (String.ofList (write cx.span))
    if cx.span.state.isEmpty then c else HeaderSink.put c stateHeaderName cx.span.state.header
  else c

/-- The headers that may be written. -/
def fields : List String := [headerName, stateHeaderName]

/-! ## Tests -/

/-- A header to vary. -/
def sample : String := "00-4bf92f3577b34da6a3ce929d0e0e4736-00f067aa0ba902b7-01"

example : (read? sample.toList .empty).map write = some sample.toList := by decide +kernel
example : (read? (" \t" ++ sample).toList .empty).isSome = true := by decide +kernel
/-- A blank behind the flags of version `00` is more data, a line feed is not. -/
example : read? (sample ++ " ").toList .empty = none := by decide +kernel
example : (read? (sample ++ "\n ").toList .empty).isSome = true := by decide +kernel
example : read? (sample ++ "-x").toList .empty = none := by decide +kernel
example : remainder? "-x y \t".toList = some "-x y".toList ∧ remainder? "-x\ny".toList = none := by decide

end TraceParent

end Telemetry
