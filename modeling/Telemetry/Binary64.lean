/-!
# Double precision numbers

Metric values and attributes hold numbers in the IEEE format of 64 bits.  They travel on the wire
as their bits and key a stream of points by their bits, so a `Binary64` *is* its bits, and two of
them are equal when these are.  The equality of IEEE, under which a NaN differs from itself and the
two zeros agree, is `agrees`.

Arithmetic is exact before it is rounded.  A finite number is an integer times `2^-1074`, the
smallest positive one, and this integer is its `scaled` value.  A sum of two numbers is the sum of
their scaled values, brought back by `ofMagnitude`, which rounds to the nearest number and a tie to
the one with the even fraction.  Adding the exponent to the rounded fraction carries into the next
exponent, and at the end into infinity, so that rounding needs no case for either.
-/

namespace Telemetry

/-- A number in the IEEE format of 64 bits. -/
structure Binary64 where
  /-- The sign, eleven bits of exponent and 52 bits of fraction. -/
  bits : UInt64
deriving DecidableEq, Repr, Inhabited

namespace Binary64

/-! ## Parts -/

/-- A power of two. -/
def twoTo (k : Nat) : Nat := Nat.pow 2 k

/-- Whether the sign bit is set. -/
def isNegative (x : Binary64) : Bool := twoTo 63 ≤ x.bits.toNat

/-- The bits without the sign. -/
def unsigned (x : Binary64) : Nat := x.bits.toNat % twoTo 63

/-- The biased exponent. -/
def exponent (x : Binary64) : Nat := x.unsigned / twoTo 52

/-- The fraction bits. -/
def fraction (x : Binary64) : Nat := x.unsigned % twoTo 52

/-- The bits of infinity. -/
def infinityBits : Nat := 0x7FF0000000000000

/-- Not a number. -/
def isNaN (x : Binary64) : Bool := infinityBits < x.unsigned

/-- Plus or minus infinity. -/
def isInfinite (x : Binary64) : Bool := x.unsigned == infinityBits

/-- Plus or minus zero. -/
def isZero (x : Binary64) : Bool := x.unsigned == 0

/-- The magnitude of a finite number, as a multiple of `2^-1074`. -/
def magnitude (x : Binary64) : Nat :=
  if x.exponent = 0 then x.fraction else (twoTo 52 + x.fraction) * twoTo (x.exponent - 1)

/-- A finite number, as a multiple of `2^-1074`. -/
def scaled (x : Binary64) : Int := if x.isNegative then -x.magnitude else x.magnitude

/-! ## Numbers -/

/-- A number of given sign and of the given bits besides. -/
def ofParts (negative : Bool) (unsigned : Nat) : Binary64 :=
  ⟨UInt64.ofNat (unsigned + if negative then twoTo 63 else 0)⟩

/-- The result of an operation that has none. -/
def nan : Binary64 := ⟨0x7FF8000000000000⟩

/-- Infinity of given sign. -/
def infinity (negative : Bool) : Binary64 := ofParts negative infinityBits

/-- A quotient by a power of two, rounded to the nearest integer and a tie to the even one. -/
def roundHalfEven (n k : Nat) : Nat :=
  let q := n / twoTo k
  let twice := 2 * (n % twoTo k)
  if twoTo k < twice ∨ (twice = twoTo k ∧ q % 2 = 1) then q + 1 else q

/-- The unsigned bits of the number nearest to a magnitude. -/
def ofMagnitude (n : Nat) : Nat :=
  let k := Nat.log2 n - 52
  min (k * twoTo 52 + roundHalfEven n k) infinityBits

/-- The number nearest to a multiple of `2^-1074`.  A zero has the sign that is given for it. -/
def ofScaled (zeroNegative : Bool) (n : Int) : Binary64 :=
  if n = 0 then ofParts zeroNegative 0 else ofParts (n < 0) (ofMagnitude n.natAbs)

/-- The number nearest to an integer. -/
def ofInt (n : Int) : Binary64 := ofScaled false (n * twoTo 1074)

/-! ## Arithmetic -/

/-- The number with the other sign. -/
def neg (x : Binary64) : Binary64 := ofParts (!x.isNegative) x.unsigned

/-- The sum, rounded.  Of zeros it is minus zero only if both are. -/
def add (x y : Binary64) : Binary64 :=
  if x.isNaN || y.isNaN then nan
  else if x.isInfinite then
    if y.isInfinite && x.isNegative != y.isNegative then nan else x
  else if y.isInfinite then y
  else ofScaled (x.isNegative && y.isNegative) (x.scaled + y.scaled)

/-- The difference, rounded. -/
def sub (x y : Binary64) : Binary64 := add x (neg y)

/-- Equality as numbers: a NaN equals nothing, and the two zeros are equal. -/
def agrees (x y : Binary64) : Bool := !x.isNaN && !y.isNaN && (x == y || (x.isZero && y.isZero))

/-- Whether the number is below zero. -/
def isBelowZero (x : Binary64) : Bool := x.isNegative && !x.isNaN && !x.isZero

/-! ## Tests -/

/-- Half, a tie to even upwards and downwards, and the carry into the next exponent. -/
example : ofInt 1 = ⟨0x3FF0000000000000⟩ ∧ ofInt (-3) = ⟨0xC008000000000000⟩ := by decide +kernel
example : ofInt 9007199254740993 = ofInt 9007199254740992
    ∧ ofInt 9007199254740995 = ofInt 9007199254740996 := by decide +kernel
example : ofInt 9223372036854775807 = ofInt 9223372036854775808 := by decide +kernel
/-- The sum of a tenth and two tenths is not three tenths. -/
example : add ⟨0x3FB999999999999A⟩ ⟨0x3FC999999999999A⟩ = ⟨0x3FD3333333333334⟩ := by decide +kernel
/-- The largest number and half a unit in its last place make infinity, less does not. -/
example : add ⟨0x7FEFFFFFFFFFFFFF⟩ ⟨0x7C90000000000000⟩ = infinity false := by decide +kernel
example : add ⟨0x7FEFFFFFFFFFFFFF⟩ ⟨0x7C8FFFFFFFFFFFFF⟩ = ⟨0x7FEFFFFFFFFFFFFF⟩ := by decide +kernel
/-- The smallest number is added exactly. -/
example : add ⟨1⟩ ⟨0x000FFFFFFFFFFFFF⟩ = ⟨0x0010000000000000⟩ := by decide +kernel
example : sub ⟨0⟩ ⟨0⟩ = ⟨0⟩ ∧ add ⟨0x8000000000000000⟩ ⟨0x8000000000000000⟩ = ⟨0x8000000000000000⟩ := by
  decide +kernel
example : (sub (infinity false) (infinity false)).isNaN = true := by decide +kernel
example : agrees ⟨0⟩ ⟨0x8000000000000000⟩ = true ∧ agrees nan nan = false := by decide +kernel

end Binary64

end Telemetry
