import Telemetry.Attributes
import Telemetry.Metric.Instrument
import Telemetry.Metric.Point

/-!
# The ledger of a reader

Each reader has a ledger of its own, so that collecting for one reader never disturbs another.  The
ledger has a stream for each instrument and each set of attributes that was measured since the
reader was registered.

A stream keeps the value that it was told, whether it was told anything since the last collection,
and the total that it last reported or observed.  At a collection the value is turned into what the
reader wants.  Increments are summed up for a reader of totals, and totals are subtracted for a
reader of differences.  Sums of differences start where the last collection ended, or where the
stream began if that is later, and sums of totals where the stream began.
-/

namespace Telemetry

/-- One instrument's measurements with one set of attributes. -/
structure MetricStream where
  /-- The number of the instrument. -/
  instrument : Nat
  /-- The attributes. -/
  attributes : Attributes
  /-- The value it was told: the sum of increments, or the last observation. -/
  value : Number
  /-- Whether it was told anything since the last collection. -/
  updated : Bool
  /-- The last total. -/
  previous : Option Number
  /-- When it began. -/
  start : Time
deriving DecidableEq

namespace MetricStream

/-- A stream that was told nothing. -/
def new (instrument : Nat) (attributes : Attributes) (time : Time) : MetricStream :=
  ⟨instrument, attributes, .i64 0, false, none, time⟩

/-- Whether a stream is that of an instrument and a set of attributes. -/
def isFor (s : MetricStream) (instrument : Nat) (attributes : Attributes) : Bool :=
  s.instrument == instrument && s.attributes.sameKey attributes

/-- The stream after an increment. -/
def add (value : Number) (s : MetricStream) : MetricStream :=
  { s with value := s.value + value, updated := true }

/-- The stream after an observation. -/
def observe (value : Number) (s : MetricStream) : MetricStream := { s with value := value, updated := true }

/-! ## Reporting -/

/-- What a sum reports and the total it keeps, for a value that is an increment or a total. -/
def convert (value : Number) (previous : Option Number) : Aggregator → Temporality → Number × Option Number
  | .increments, .delta => (value, previous)
  | .increments, .cumulative =>
    let total := match previous with
      | some p => p + value
      | none => value
    (total, some total)
  | _, .cumulative => (value, some value)
  | _, .delta =>
    match previous with
    | some p => (value - p, some value)
    | none => (value, some value)

/-- Whether a stream reports at a collection.  The total of a counter is reported even if nothing
was added, and all else only after a measurement. -/
def isReported (s : MetricStream) (aggregator : Aggregator) (temporality : Temporality) : Bool :=
  s.updated || (aggregator == .increments && temporality == .cumulative)

/-- The point of a stream, and the total that it keeps. -/
def point (s : MetricStream) (aggregator : Aggregator) (temporality : Temporality) (last now : Time) :
    Point × Option Number :=
  match aggregator with
  | .lastValue => (.gauge ⟨now, s.value⟩, s.previous)
  | _ =>
    let (value, previous) := convert s.value s.previous aggregator temporality
    let start := match temporality with
      | .cumulative => s.start
      | .delta => max s.start last
    (.sum ⟨temporality, true, start, now, value⟩, previous)

/-- The stream after a collection: told nothing, and a counter at zero. -/
def rest (s : MetricStream) (aggregator : Aggregator) : MetricStream :=
  { s with value := if aggregator = .increments then .i64 0 else s.value, updated := false }

/-- What a stream of an instrument reports at a collection, and the stream afterwards. -/
def collect (s : MetricStream) (i : Instrument) (temporality : Temporality) (last now : Time) :
    Option Metric × MetricStream :=
  if s.isReported i.aggregator temporality then
    let (point, previous) := s.point i.aggregator temporality last now
    (some ⟨i.name, i.description, i.unit, s.attributes, point⟩,
      { s with previous := previous }.rest i.aggregator)
  else (none, s.rest i.aggregator)

end MetricStream

/-! ## Ledgers -/

/-- What one reader keeps. -/
structure Ledger where
  /-- Which interval its sums cover. -/
  temporality : Temporality
  /-- Its streams, oldest first. -/
  streams : List MetricStream
  /-- When it was last collected, or else registered. -/
  lastCollected : Time
deriving DecidableEq

namespace Ledger

/-- The ledger of a reader that is registered now. -/
def new (temporality : Temporality) (now : Time) : Ledger := ⟨temporality, [], now⟩

/-- The streams with that of an instrument and a set of attributes changed, which begins now if it
is not there yet. -/
def modify (instrument : Nat) (attributes : Attributes) (now : Time) (f : MetricStream → MetricStream) :
    List MetricStream → List MetricStream
  | [] => [f (.new instrument attributes now)]
  | s :: rest =>
    if s.isFor instrument attributes then f s :: rest
    else s :: modify instrument attributes now f rest
termination_by structural streams => streams

/-- Takes an increment of a counter. -/
def add (l : Ledger) (instrument : Nat) (attributes : Attributes) (value : Number) (now : Time) : Ledger :=
  { l with streams := modify instrument attributes now (.add value) l.streams }

/-- Takes an observation of an observable instrument. -/
def observe (l : Ledger) (instrument : Nat) (attributes : Attributes) (value : Number) (now : Time) :
    Ledger :=
  { l with streams := modify instrument attributes now (.observe value) l.streams }

/-- What a stream reports, for an instrument that is known. -/
def collectStream (l : Ledger) (instruments : List Instrument) (now : Time) (s : MetricStream) :
    Option Metric × MetricStream :=
  match instruments[s.instrument]? with
  | some i => s.collect i l.temporality l.lastCollected now
  | none => (none, s)

/-- What all streams report, and the ledger after the collection. -/
def collect (l : Ledger) (instruments : List Instrument) (now : Time) : Ledger × List Metric :=
  let collected := l.streams.map (l.collectStream instruments now)
  (⟨l.temporality, collected.map (·.2), now⟩, collected.filterMap (·.1))

/-- The stream of an instrument and a set of attributes. -/
def stream? (l : Ledger) (instrument : Nat) (attributes : Attributes) : Option MetricStream :=
  l.streams.find? (·.isFor instrument attributes)

end Ledger

end Telemetry
