import Telemetry.Binary64

/-!
# The shortest decimal of a double precision number

A number is written with the fewest digits that read back as the same number.  The real numbers
that read back form an interval around it, whose ends belong to it when the fraction is even.  Its
lower half is half as wide below a power of two.

A decimal with `n` digits lies on the grid of the multiples of a power of ten.  If any point of the
grid lies in the interval, then one of the two neighbours of the number on the grid does, so
`shortest` tests these two on one grid after the other, the coarsest first, and of two hits takes
the nearer.  Seventeen digits always suffice.  All of it is arithmetic on naturals: everything is
multiplied by `2^1076`, which makes the ends of the interval whole, and by the power of ten.
-/

namespace Telemetry

/-- A decimal number: digits times a power of ten. -/
structure Decimal where
  /-- The digits, as a number. -/
  digits : Nat
  /-- The power of ten that the last digit counts. -/
  exponent : Int
deriving DecidableEq, Repr

namespace Decimal

/-- A power of ten. -/
def tenTo (k : Nat) : Nat := Nat.pow 10 k

/-- The digits of a number, most significant first. -/
def digitText (n : Nat) : List Char := Nat.toDigits 10 n

/-- The power of ten that the first digit counts. -/
def leading (d : Decimal) : Int := d.exponent + (digitText d.digits).length - 1

/-- The same number without zeros at the end of its digits, as far as fuel goes. -/
def strip : Nat → Decimal → Decimal
  | 0, d => d
  | fuel + 1, d => if d.digits % 10 = 0 then strip fuel ⟨d.digits / 10, d.exponent + 1⟩ else d
termination_by structural fuel => fuel

end Decimal

namespace Binary64

/-- The reals that read back as a number, in units of `2^-1076`. -/
structure Interval where
  /-- The number itself. -/
  middle : Nat
  /-- The lower end. -/
  low : Nat
  /-- The upper end. -/
  high : Nat
  /-- Whether the ends read back too. -/
  closed : Bool
deriving DecidableEq, Repr

/-- The interval of a positive finite number. -/
def interval (x : Binary64) : Interval :=
  let unit := twoTo (x.exponent - 1)
  let below := if x.fraction = 0 ∧ 1 < x.exponent then unit else 2 * unit
  ⟨4 * x.magnitude, 4 * x.magnitude - below, 4 * x.magnitude + 2 * unit, x.fraction % 2 = 0⟩

/-- The power of ten that the first digit of a positive finite number counts. -/
def leadingPower (x : Binary64) : Int :=
  ((Decimal.digitText (x.magnitude * Decimal.tenTo 324 / twoTo 1074)).length : Int) - 325

/-- Of the two neighbours of a number on the multiples of `10^power` the nearer one that reads
back, if one does. -/
def onGrid? (i : Interval) (power : Int) : Option Decimal :=
  let up := Decimal.tenTo power.toNat * twoTo 1076
  let down := Decimal.tenTo (-power).toNat
  let inside (d : Nat) : Bool :=
    if i.closed then i.low * down ≤ d * up && d * up ≤ i.high * down
    else i.low * down < d * up && d * up < i.high * down
  let d := i.middle * down / up
  let rest := i.middle * down % up
  let nearer := if 2 * rest < up then d else d + 1
  let farther := if 2 * rest < up then d + 1 else d
  if inside nearer then some ⟨nearer, power⟩
  else if inside farther then some ⟨farther, power⟩
  else none

/-- The decimal with the fewest digits that reads back as a positive finite number, and of these
the nearest one. -/
def shortest (x : Binary64) : Decimal :=
  let i := x.interval
  let top := x.leadingPower
  let hit := (List.range 17).findSome? fun (n : Nat) => onGrid? i (top - n)
  Decimal.strip 17 (hit.getD ⟨0, 0⟩)

/-! ## Tests -/

example : shortest (ofInt 1) = ⟨1, 0⟩ ∧ shortest (ofInt 1200) = ⟨12, 2⟩ := by decide +kernel
example : shortest ⟨0x3FB999999999999A⟩ = ⟨1, -1⟩ := by decide +kernel
example : shortest ⟨0x3FD3333333333334⟩ = ⟨30000000000000004, -17⟩ := by decide +kernel
example : shortest ⟨1⟩ = ⟨5, -324⟩ := by decide +kernel
example : shortest ⟨0x7FEFFFFFFFFFFFFF⟩ = ⟨17976931348623157, 292⟩ := by decide +kernel
/-- A power of two, below which the interval is narrow. -/
example : shortest ⟨0x4340000000000000⟩ = ⟨9007199254740992, 0⟩ := by decide +kernel
example : shortest ⟨0x44B52D02C7E14AF6⟩ = ⟨1, 23⟩ := by decide +kernel

end Binary64

end Telemetry
