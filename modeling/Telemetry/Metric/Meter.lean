import Telemetry.Log
import Telemetry.Metric.Ledger

/-!
# The meter

A meter has instruments and readers.  An increment of a counter goes into the ledger of every reader
that is registered at the time.  A collection is for one reader: it asks the observable instruments
one after the other, takes what they report into the ledger of this reader alone, and then reports
the ledger.  An observable instrument that is asked may itself add to counters, and these increments
go to every reader and are part of the same collection.

A collection is about the instruments that are there when it begins.  While it lasts the meter is
locked by nobody, so that others, and the instruments that are asked, may do anything with it, such as
to add instruments.  What a new instrument is told goes into the ledgers, but the collection leaves it
alone.

Every time stamp is taken by itself: an increment, an observation and the collection bring their own
readings of the clock.
-/

namespace Telemetry

/-- The number of an instrument. -/
abbrev InstrumentId := Nat

/-- The number of a reader. -/
abbrev ReaderId := Nat

/-! ## Reports of observable instruments -/

/-- An increment of a counter. -/
structure Increment where
  /-- The counter. -/
  counter : InstrumentId
  /-- How much. -/
  value : Number
  /-- About what. -/
  attributes : Attributes
  /-- When. -/
  time : Time
deriving DecidableEq

/-- A value that an observable instrument reports. -/
structure Observation where
  /-- The value. -/
  value : Number
  /-- About what. -/
  attributes : Attributes
  /-- When it is taken down. -/
  time : Time
deriving DecidableEq

/-- What an observable instrument does when it is asked, if it does nothing else with the meter. -/
structure Report where
  /-- What it adds to counters. -/
  increments : List Increment
  /-- What it reports of itself. -/
  observations : List Observation
deriving DecidableEq

/-- A report of nothing. -/
def Report.nothing : Report := ⟨[], []⟩

/-! ## The meter -/

/-- Instruments and the readers that collect from them. -/
structure Meter where
  /-- The views. -/
  views : List View
  /-- The instruments, by number. -/
  instruments : List Instrument
  /-- The readers with their ledgers, oldest first. -/
  readers : List (ReaderId × Ledger)
  /-- The number of the next reader. -/
  nextReader : ReaderId

namespace Meter

/-- A meter without instruments and readers. -/
def ofViews (views : List View) : Meter := ⟨views, [], [], 0⟩

/-- Adds an instrument, as the views have it. -/
def register (m : Meter) (i : Instrument) : Meter × InstrumentId :=
  ({ m with instruments := m.instruments ++ [i.under m.views] }, m.instruments.length)

/-- Adds a reader, whose ledger begins now. -/
def registerReader (m : Meter) (temporality : Temporality) (now : Time) : Meter × ReaderId :=
  ({ m with
      readers := m.readers ++ [(m.nextReader, .new temporality now)]
      nextReader := m.nextReader + 1 }, m.nextReader)

/-- Removes a reader. -/
def dropReader (m : Meter) (reader : ReaderId) : Meter :=
  { m with readers := m.readers.filter (·.1 != reader) }

/-- The ledger of a reader. -/
def ledger? (m : Meter) (reader : ReaderId) : Option Ledger := m.readers.lookup reader

/-- The meter with the ledgers of all readers changed. -/
def mapLedgers (m : Meter) (f : ReaderId → Ledger → Ledger) : Meter :=
  { m with readers := m.readers.map fun (id, l) => (id, f id l) }

/-- The meter with the ledger of one reader changed. -/
def modifyLedger (m : Meter) (reader : ReaderId) (f : Ledger → Ledger) : Meter :=
  m.mapLedgers fun id l => if id = reader then f l else l

/-! ## Measuring -/

/-- The part of the library that logs about meters. -/
def logTarget : String := "tributary_engine::metrics"

/-- What is logged about an increment that is not taken. -/
def negativeIncrement (value : Number) : LogEntry :=
  ⟨.warn, logTarget, "ignoring negative increment " ++ value.describe ++ " on a monotonic counter"⟩

/-- Adds to a counter, for every reader.  A negative increment is not taken. -/
def add (m : Meter) (i : Increment) : Meter × List LogEntry :=
  if i.value.isNegative then (m, [negativeIncrement i.value])
  else (m.mapLedgers fun _ l => l.add i.counter i.attributes i.value i.time, [])

/-- Adds to counters, one increment after the other. -/
def addAll (m : Meter) : List Increment → Meter × List LogEntry
  | [] => (m, [])
  | i :: rest =>
    let (m, logs) := m.add i
    let (m, more) := m.addAll rest
    (m, logs ++ more)
termination_by structural is => is

/-- The numbers of the observable ones among the instruments of a meter, or the first ones of them. -/
def observablesAmong (instruments : List Instrument) : List InstrumentId :=
  (instruments.zipIdx.filter (·.1.aggregator.isObservable)).map (·.2)

/-- The numbers of the observable instruments. -/
def observables (m : Meter) : List InstrumentId := observablesAmong m.instruments

/-- Takes down what an instrument reports, for one reader. -/
def observeAll (m : Meter) (reader : ReaderId) (instrument : InstrumentId) (os : List Observation) : Meter :=
  m.modifyLedger reader fun l =>
    os.foldl (fun l o => l.observe instrument o.attributes o.value o.time) l

/-! ## Collecting -/

/-- Takes down for a reader what the observable ones among the instruments that its collection found
have reported of themselves. -/
def note (m : Meter) (reader : ReaderId) (found : List Instrument)
    (reported : InstrumentId → List Observation) : Meter :=
  (observablesAmong found).foldl (fun m id => m.observeAll reader id (reported id)) m

/-- Ends a collection: what was reported is taken down, and then the ledger is reported, as far as it
is about instruments that the collection found. -/
def finish (m : Meter) (reader : ReaderId) (found : List Instrument)
    (reported : InstrumentId → List Observation) (now : Time) : Meter × List Metric :=
  let m := m.note reader found reported
  match m.ledger? reader with
  | none => (m, [])
  | some l =>
    let (l', metrics) := l.collect found now
    (m.modifyLedger reader fun _ => l', metrics)

/-- Collects for a reader, while nobody does anything with the meter but the observable instruments,
which add to counters.  First all of them are asked, and then the collection ends. -/
def collect (m : Meter) (reader : ReaderId) (reports : InstrumentId → Report) (now : Time) :
    Meter × List Metric × List LogEntry :=
  let found := m.instruments
  let (m, logs) := m.addAll ((observablesAmong found).flatMap fun id => (reports id).increments)
  let (m, metrics) := m.finish reader found (fun id => (reports id).observations) now
  (m, metrics, logs)

/-! ## Descriptions -/

/-- A meter as descriptions show it. -/
def describe (m : Meter) : String :=
  Text.describeRecord "Meter" [("views", Text.bracketed (m.views.map View.describe)),
    ("instruments", toString m.instruments.length), ("readers", toString m.readers.length)]

/-- A reader as descriptions show it. -/
def describeReader (l : Ledger) : String :=
  Text.describeRecord "ReaderHandle" [("temporality", l.temporality.describe)]

/-- A counter as descriptions show it. -/
def describeCounter (id : InstrumentId) : String := Text.describeRecord "Counter" [("id", toString id)]

/-- An observable instrument as descriptions show it, under the name that it was made with. -/
def describeObservable (aggregator : Aggregator) (name : String) : String :=
  Text.describeRecord (if aggregator = .lastValue then "ObservableGauge" else "ObservableCounter")
    [("name", Text.quote name)]

end Meter

end Telemetry
