import Telemetry.Context.Basic
import Telemetry.Propagation.BaggageHeader
import Telemetry.Text.Unsigned

/-!
# The Jaeger headers

The header `uber-trace-id` holds the trace id, the span id, the id of the parent and the flags, with
colons between them, and may be percent encoded as a whole.  Ids may be written without leading
zeros.  Each baggage item has a header of its own, named by the item behind `uberctx-`.  Baggage is
read only where there is an `uber-trace-id`, but then even if that is malformed.

Writing sets the debug bit beside the sampled bit, so that a collector keeps the trace.
-/

namespace Telemetry

namespace Jaeger

/-- The header of the ids and flags. -/
def headerName : String := "uber-trace-id"

/-- What the name of a baggage header begins with. -/
def baggageStart : String := "uberctx-"

/-! ## Reading -/

/-- The number of an id of at most so many hexadecimal digits. -/
def readId? (maxLength : Nat) (cs : List Char) : Option Nat :=
  if !cs.isEmpty && cs.length ≤ maxLength && cs.all Text.isHex then some (Text.readHex cs) else none

/-- The span context of a header. -/
def read? (header : List Char) : Option SpanContext :=
  match Text.fields ':' (Text.decodePercent header) with
  | [trace, span, _, flags] => do
    let trace : TraceId := ⟨BitVec.ofNat 128 (← readId? 32 trace)⟩
    let span : SpanId := ⟨BitVec.ofNat 64 (← readId? 16 span)⟩
    let flags : TraceFlags := ⟨BitVec.ofNat 8 (← Text.readHexByte? flags)⟩
    guard (trace.isValid && span.isValid)
    return .newRemote trace span flags.masked
  | _ => none

/-- The name of the item that a baggage header is about. -/
def itemName? (header : String) : Option String :=
  if baggageStart.toList.isPrefixOf header.toList then
    some (String.ofList (header.toList.drop baggageStart.length))
  else none

/-- The value of an item as it was sent, without the blanks around it. -/
def readValue (value : String) : String := String.ofList (Text.trim (Text.decodePercent value.toList))

/-- The item of one baggage header of a carrier. -/
def item? {γ : Type} [HeaderSource γ] (c : γ) (header : String) : Option (String × String) := do
  let name ← itemName? header
  let value ← HeaderSource.get? c header
  return (name, readValue value)

/-- The items of a carrier. -/
def items {γ : Type} [HeaderSource γ] (c : γ) : List (String × String) :=
  (HeaderSource.names c).filterMap (item? c)

/-- The context with what a carrier holds. -/
def extract {γ : Type} [HeaderSource γ] (cx : Context) (c : γ) : Context :=
  match HeaderSource.get? c headerName with
  | none => cx
  | some header =>
    let cx := BaggageHeader.merge cx (items c)
    match read? header.toList with
    | some s => cx.withRemoteSpan s
    | none => cx

/-! ## Writing -/

/-- The flags as they are sent. -/
def sentFlags (f : TraceFlags) : TraceFlags := if f.isSampled then ⟨f.byte ||| 2⟩ else f

/-- The header of a span context. -/
def write (s : SpanContext) : List Char :=
  Text.join ':' [s.traceId.digits, s.spanId.digits, SpanId.invalid.digits,
    Text.writeHex 2 (sentFlags s.flags).byte.toNat]

/-- Whether a value escapes an ASCII character: all but letters and digits are. -/
def isEscaped (c : Char) : Bool := !Text.isAsciiAlphanumeric c

/-- Writes one baggage item. -/
def injectItem {γ : Type} [HeaderSink γ] (c : γ) (item : String × String) : γ :=
  HeaderSink.put c (baggageStart ++ item.1)
    (String.ofList (Text.encodePercent isEscaped item.2.toList))

/-- Writes the headers of a context with a valid span context. -/
def inject {γ : Type} [HeaderSink γ] (cx : Context) (c : γ) : γ :=
  if cx.span.isValid then
    cx.baggage.toList.foldl injectItem
      (HeaderSink.put c headerName (String.ofList (write cx.span)))
  else c

/-- The headers that may be written, those of the baggage apart. -/
def fields : List String := [headerName]

/-! ## Tests -/

example : (read? "ab%3a1:0:3".toList).map (fun s => (s.traceId, s.spanId, s.isSampled))
    = some (⟨0xab⟩, ⟨1⟩, true) := by decide +kernel
example : read? "ab:1:0".toList = none ∧ read? "0:1:0:1".toList = none ∧ read? "a:1:0:100".toList = none := by
  decide +kernel
example : itemName? "uberctx-User" = some "User" ∧ itemName? "uberctx" = none := by decide
example : sentFlags ⟨0x05⟩ = ⟨0x07⟩ ∧ sentFlags ⟨0x04⟩ = ⟨0x04⟩ := by decide

end Jaeger

end Telemetry
