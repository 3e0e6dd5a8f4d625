import Telemetry.Binary64.Text
import Telemetry.Text.Quoted

/-!
# Measured numbers

A measurement is an integer of 64 bits or a double precision number.  Integers wrap around, so that
sums of them are sums modulo `2^64` and no order of additions matters.  As soon as one operand is a
double, both are taken as doubles.
-/

namespace Telemetry

/-- A measured number. -/
inductive Number where
  /-- An integer. -/
  | i64 (value : Int64)
  /-- A double precision number. -/
  | f64 (value : Binary64)
deriving DecidableEq, Repr

namespace Number

instance : Inhabited Number := ⟨.i64 0⟩

/-- The number as a double, rounded if it is a large integer. -/
def asFloat : Number → Binary64
  | .i64 n => .ofInt n.toInt
  | .f64 x => x

/-- The sum. -/
def add : Number → Number → Number
  | .i64 m, .i64 n => .i64 (m + n)
  | a, b => .f64 (a.asFloat.add b.asFloat)

/-- The difference. -/
def sub : Number → Number → Number
  | .i64 m, .i64 n => .i64 (m - n)
  | a, b => .f64 (a.asFloat.sub b.asFloat)

instance : Add Number := ⟨add⟩

instance : Sub Number := ⟨sub⟩

/-- Equality of numbers of one kind, in which a NaN differs from itself. -/
def agrees : Number → Number → Bool
  | .i64 m, .i64 n => m == n
  | .f64 x, .f64 y => x.agrees y
  | _, _ => false

/-- Whether the number is below zero. -/
def isNegative : Number → Bool
  | .i64 n => n < 0
  | .f64 x => x.isBelowZero

/-- The number with its kind, as descriptions show it. -/
def describe : Number → String
  | .i64 n => Text.describeCase "I64" (toString n.toInt)
  | .f64 x => Text.describeCase "F64" (x.text .detailed)

/-! ## Laws -/

@[simp] theorem i64_add_i64 (m n : Int64) : (.i64 m + .i64 n : Number) = .i64 (m + n) := rfl

@[simp] theorem i64_sub_i64 (m n : Int64) : (.i64 m - .i64 n : Number) = .i64 (m - n) := rfl

@[simp] theorem isNegative_i64 (n : Int64) : (Number.i64 n).isNegative = decide (n < 0) := rfl

/-! ## Tests -/

example : (.i64 Int64.maxValue + .i64 1 : Number) = .i64 Int64.minValue := by decide
example : (.i64 2 + .f64 ⟨0x3FE0000000000000⟩ : Number) = .f64 ⟨0x4004000000000000⟩ := by decide +kernel
example : (Number.f64 .nan).agrees (.f64 .nan) = false := by decide +kernel
example : (Number.i64 (-5)).describe = "I64(-5)" := by decide +kernel

end Number

end Telemetry
