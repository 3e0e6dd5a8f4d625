import Telemetry.Text.Hex

/-!
# Unsigned numbers in a text

A setting, or the flag field of a header, is an unsigned number in some base: an optional plus
sign, then at least one digit, and nothing else.  A number above the limit is refused and not
cut down, so that a setting too large to hold is treated like one that is no number.
-/

namespace Telemetry.Text

/-- The digits behind an optional plus sign. -/
def dropPlus : List Char → List Char
  | '+' :: cs => cs
  | cs => cs

/-- The number written by digits of a base, if every character is such a digit. -/
def readDigits? (value : Char → Option Nat) (base : Nat) (cs : List Char) : Option Nat :=
  cs.foldlM (fun n c => (value c).map (n * base + ·)) 0

/-- An unsigned number in a base that is at most `limit`. -/
def readUnsigned? (value : Char → Option Nat) (base limit : Nat) (cs : List Char) : Option Nat :=
  let digits := dropPlus cs
  if digits.isEmpty then none else (readDigits? value base digits).filter (· ≤ limit)

/-- The value of a decimal digit. -/
def decimalValue? (c : Char) : Option Nat :=
  if '0' ≤ c ∧ c ≤ '9' then some (c.toNat - 48) else none

/-- An unsigned decimal number of at most 64 bits. -/
def readWord? (cs : List Char) : Option Nat := readUnsigned? decimalValue? 10 (UInt64.size - 1) cs

/-- An unsigned hexadecimal number of at most 8 bits. -/
def readHexByte? (cs : List Char) : Option Nat := readUnsigned? hexValue? 16 255 cs

/-! ## Tests -/

example : readWord? "+0017".toList = some 17 := by decide
example : readWord? "".toList = none ∧ readWord? "+".toList = none ∧ readWord? "-1".toList = none := by
  decide
example : readWord? "18446744073709551615".toList = some 18446744073709551615 := by decide
example : readWord? "18446744073709551616".toList = none := by decide
example : readHexByte? "0fF".toList = some 255 ∧ readHexByte? "100".toList = none := by decide

end Telemetry.Text
