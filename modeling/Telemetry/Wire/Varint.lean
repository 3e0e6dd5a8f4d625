/-!
# Numbers on the wire

Numbers are written big end first.  A number of variable length takes a single byte when it is below
251.  Otherwise a marker byte tells whether two, four, eight or sixteen bytes follow, as few as will
do.  Signed numbers are folded into unsigned ones first, so that small ones of either sign are
short.
-/

namespace Telemetry.Wire

/-! ## Fixed length -/

/-- The last `width` bytes of a number, big end first. -/
def bigEndian : Nat → Nat → List UInt8
  | 0, _ => []
  | width + 1, n => bigEndian width (n / 256) ++ [UInt8.ofNat n]
termination_by structural width => width

/-- The number that bytes write, big end first. -/
def readBigEndian (bytes : List UInt8) : Nat := bytes.foldl (fun n b => n * 256 + b.toNat) 0

@[simp] theorem length_bigEndian (width n : Nat) : (bigEndian width n).length = width := by
  induction width generalizing n with
  | zero => rfl
  | succ w ih => simp [bigEndian, ih]

/-- A number that fits the width is read back. -/
theorem readBigEndian_bigEndian {width n : Nat} (h : n < Nat.pow 256 width) :
    readBigEndian (bigEndian width n) = n := by
  induction width generalizing n with
  | zero =>
    have : n = 0 := by simpa using h
    simp [this, bigEndian, readBigEndian]
  | succ w ih =>
    have hdiv : n / 256 < Nat.pow 256 w := (Nat.div_lt_iff_lt_mul (by decide)).2 h
    have hrest : List.foldl (fun n (b : UInt8) => n * 256 + b.toNat) 0 (bigEndian w (n / 256)) = n / 256 :=
      ih hdiv
    simp only [bigEndian, readBigEndian, List.foldl_append, List.foldl_cons, List.foldl_nil, hrest,
      UInt8.toNat_ofNat']
    omega

/-! ## Variable length -/

/-- A number of at most 128 bits, in as few bytes as its size allows. -/
def varint (n : Nat) : List UInt8 :=
  if n < 251 then [UInt8.ofNat n]
  else if n < UInt16.size then 251 :: bigEndian 2 n
  else if n < UInt32.size then 252 :: bigEndian 4 n
  else if n < UInt64.size then 253 :: bigEndian 8 n
  else 254 :: bigEndian 16 n

/-- A signed number folded into an unsigned one: zero, minus one, one, minus two, and so on. -/
def zigzag (n : Int) : Nat := if 0 ≤ n then 2 * n.toNat else 2 * (-n).toNat - 1

/-! ## Tests -/

example : varint 250 = [250] ∧ varint 251 = [251, 0, 251] ∧ varint 65536 = [252, 0, 1, 0, 0] := by decide
example : zigzag 5 = 10 ∧ zigzag (-1) = 1 ∧ zigzag (-9223372036854775808) = 18446744073709551615 := by decide

end Telemetry.Wire
