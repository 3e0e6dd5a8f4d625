import Telemetry.Binary64.Decimal

/-!
# Double precision numbers as text

A number is written with its shortest digits in one of two styles.  A value that is shown to a
reader is `plain`: always positional, with no fraction when there is none.  A value in a
description is `detailed`: it carries a fraction always, so that it is seen to be no integer, and
very large and very small numbers have an exponent.
-/

namespace Telemetry

/-- How a decimal number is written. -/
structure DecimalStyle where
  /-- Whether a whole number carries `.0`. -/
  wholePoint : Bool
  /-- The least and the greatest leading power of ten that are written positionally, if any has to
  be written otherwise. -/
  positional : Option (Int × Int)
deriving DecidableEq, Repr

namespace DecimalStyle

/-- Positional whatever the size, and whole numbers without a point. -/
def plain : DecimalStyle := ⟨false, none⟩

/-- With a point always, and positional from `10^-4` to below `10^16`. -/
def detailed : DecimalStyle := ⟨true, some (-4, 15)⟩

/-- Whether a number with this leading power of ten is written positionally. -/
def isPositional (s : DecimalStyle) (leading : Int) : Bool :=
  match s.positional with
  | none => true
  | some (least, greatest) => least ≤ leading && leading ≤ greatest

end DecimalStyle

namespace Decimal

/-- The digits with the point at its place. -/
def positionalText (wholePoint : Bool) (d : Decimal) : List Char :=
  let ds := digitText d.digits
  let whole := (ds.length + d.exponent).toNat
  if 0 ≤ d.exponent then
    ds ++ List.replicate d.exponent.toNat '0' ++ if wholePoint then ['.', '0'] else []
  else if whole = 0 then
    ['0', '.'] ++ List.replicate (-d.exponent - ds.length).toNat '0' ++ ds
  else ds.take whole ++ '.' :: ds.drop whole

/-- The first digit, the others behind a point, and the power of ten of the first. -/
def exponentialText (d : Decimal) : List Char :=
  let ds := digitText d.digits
  ds.take 1 ++ (if ds.length = 1 then [] else '.' :: ds.drop 1) ++ 'e' :: (toString d.leading).toList

/-- A decimal number in a style. -/
def text (s : DecimalStyle) (d : Decimal) : List Char :=
  if s.isPositional d.leading then d.positionalText s.wholePoint else d.exponentialText

end Decimal

namespace Binary64

/-- The magnitude of a number that is not NaN, in a style. -/
def magnitudeText (s : DecimalStyle) (x : Binary64) : List Char :=
  if x.isInfinite then ['i', 'n', 'f']
  else if x.isZero then Decimal.text s ⟨0, 0⟩
  else Decimal.text s x.shortest

/-- A number in a style.  Minus zero has its sign. -/
def text (s : DecimalStyle) (x : Binary64) : String :=
  if x.isNaN then "NaN"
  else String.ofList ((if x.isNegative then ['-'] else []) ++ x.magnitudeText s)

/-! ## Tests -/

example : text .plain (ofInt 100) = "100" ∧ text .detailed (ofInt 100) = "100.0" := by decide +kernel
example : text .plain ⟨0x8000000000000000⟩ = "-0" ∧ text .detailed ⟨0x8000000000000000⟩ = "-0.0" := by
  decide +kernel
example : text .plain ⟨0xBFF8000000000000⟩ = "-1.5" := by decide +kernel
example : text .detailed ⟨0x4341C37937E08000⟩ = "1e16" := by decide +kernel
example : text .plain ⟨0x4341C37937E08000⟩ = "10000000000000000" := by decide +kernel
example : text .detailed ⟨0x3EEF75104D551D69⟩ = "1.5e-5" := by decide +kernel
example : text .plain ⟨0x3EEF75104D551D69⟩ = "0.000015" := by decide +kernel
example : text .detailed ⟨0x3F1A36E2EB1C432D⟩ = "0.0001" := by decide +kernel
example : text .plain (infinity true) = "-inf" ∧ text .plain nan = "NaN" := by decide +kernel

end Binary64

end Telemetry
