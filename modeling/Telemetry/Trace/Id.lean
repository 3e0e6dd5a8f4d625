import Telemetry.Text.Hex

/-!
# Trace and span ids

A trace id is a number of 128 bits and a span id one of 64.  Zero stands for no id.  Both are
written in lower case hexadecimal with all their digits, and are read from digits of either case.
Some headers allow a short trace id of 16 digits.
-/

namespace Telemetry

/-- The id of a trace. -/
structure TraceId where
  /-- The number. -/
  value : BitVec 128
deriving DecidableEq, Repr

/-- The id of a span within a trace. -/
structure SpanId where
  /-- The number. -/
  value : BitVec 64
deriving DecidableEq, Repr

namespace TraceId

/-- The id that stands for none. -/
def invalid : TraceId := ⟨0⟩

instance : Inhabited TraceId := ⟨invalid⟩

/-- Whether it is the id of a trace. -/
def isValid (t : TraceId) : Bool := t != invalid

/-- The 32 hexadecimal digits of the id. -/
def digits (t : TraceId) : List Char := Text.writeHex 32 t.value.toNat

/-- The id as text. -/
def text (t : TraceId) : String := String.ofList t.digits

/-- The id written by 32 hexadecimal digits, or by 16 where short ids are allowed. -/
def ofHex? (allowShort : Bool) (cs : List Char) : Option TraceId :=
  if (cs.length = 32 ∨ (allowShort ∧ cs.length = 16)) ∧ cs.all Text.isHex then
    some ⟨BitVec.ofNat 128 (Text.readHex cs)⟩
  else none

end TraceId

namespace SpanId

/-- The id that stands for none. -/
def invalid : SpanId := ⟨0⟩

instance : Inhabited SpanId := ⟨invalid⟩

/-- Whether it is the id of a span. -/
def isValid (s : SpanId) : Bool := s != invalid

/-- The 16 hexadecimal digits of the id. -/
def digits (s : SpanId) : List Char := Text.writeHex 16 s.value.toNat

/-- The id as text. -/
def text (s : SpanId) : String := String.ofList s.digits

/-- The id written by 16 hexadecimal digits. -/
def ofHex? (cs : List Char) : Option SpanId :=
  if cs.length = 16 ∧ cs.all Text.isHex then some ⟨BitVec.ofNat 64 (Text.readHex cs)⟩ else none

end SpanId

/-! ## Tests -/

example : (TraceId.mk 0xab).text = "000000000000000000000000000000ab" := by decide
example : TraceId.ofHex? false "4bf92f3577b34dA6a3ce929d0e0e4736".toList
    = some ⟨0x4bf92f3577b34da6a3ce929d0e0e4736⟩ := by decide
example : TraceId.ofHex? false "4bf92f3577b34da6".toList = none
    ∧ TraceId.ofHex? true "4bf92f3577b34da6".toList = some ⟨0x4bf92f3577b34da6⟩ := by decide
example : SpanId.ofHex? "+0f067aa0ba902b7".toList = none := by decide

end Telemetry
