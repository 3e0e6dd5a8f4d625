import Telemetry.Text.Quoted

/-!
# Instruments and views

An instrument measures one thing, and how its measurements are to be read is part of it: a counter
is told increments, an observable counter reports its running total, and a gauge its present value.
Observable instruments are asked whenever a reader collects.

A view gives the streams of an instrument another name or description.  It is for one instrument, by
name, or for all of them, and of the views that fit the first one counts.
-/

namespace Telemetry

/-- How the measurements of an instrument are read. -/
inductive Aggregator where
  /-- As increments of a sum. -/
  | increments
  /-- As running totals of a sum. -/
  | totals
  /-- As values, of which the last one counts. -/
  | lastValue
deriving DecidableEq, Repr

/-- Whether an instrument is asked for its measurements. -/
def Aggregator.isObservable : Aggregator → Bool
  | .increments => false
  | .totals | .lastValue => true

/-- An instrument as its streams are reported. -/
structure Instrument where
  /-- The name of its streams. -/
  name : String
  /-- The description of its streams. -/
  description : String
  /-- The unit of its streams. -/
  unit : String
  /-- How its measurements are read. -/
  aggregator : Aggregator
deriving DecidableEq, Repr

/-- A change to the names and descriptions of streams. -/
structure View where
  /-- The name of the instrument that it is for, or an asterisk for all. -/
  instrument : String
  /-- The name of the streams, if it is another one. -/
  name : Option String
  /-- The description of the streams, if it is another one. -/
  description : Option String
deriving DecidableEq, Repr

namespace View

/-- The selector of a view that is for all instruments. -/
def everything : String := "*"

/-- Whether a view is for an instrument. -/
def fits (v : View) (instrument : String) : Bool :=
  v.instrument == everything || v.instrument == instrument

/-- An instrument as a view has it.  A view for all instruments gives no name, since all streams
would have the same one. -/
def apply (v : View) (i : Instrument) : Instrument :=
  { i with
    name := if v.instrument = everything then i.name else v.name.getD i.name
    description := v.description.getD i.description }

/-- A text that may be missing, as descriptions show it. -/
def describeOption : Option String → String
  | some s => Text.describeCase "Some" (Text.quote s)
  | none => "None"

/-- A view as descriptions show it. -/
def describe (v : View) : String :=
  Text.describeRecord "View" [("instrument", Text.quote v.instrument), ("name", describeOption v.name),
    ("description", describeOption v.description)]

end View

/-- An instrument as the first view that is for it has it. -/
def Instrument.under (i : Instrument) (views : List View) : Instrument :=
  match views.find? (·.fits i.name) with
  | some v => v.apply i
  | none => i

/-! ## Tests -/

example : (Instrument.mk "a" "" "" .increments).under [⟨"*", some "x", some "d"⟩, ⟨"a", some "b", none⟩]
    = ⟨"a", "d", "", .increments⟩ := by decide
example : (View.mk "a" (some "b") none).describe
    = "View \x7b instrument: \"a\", name: Some(\"b\"), description: None \x7d" := by decide +kernel

end Telemetry
