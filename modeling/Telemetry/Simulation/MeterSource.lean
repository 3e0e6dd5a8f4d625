import Telemetry.Metric.Meter
import Telemetry.Simulation.Stage

/-!
# Meters as sources

A periodic reader may collect from a reader of a meter.  The meter goes on while the worker sleeps,
so the source holds the meter as it is, with what its observable instruments would report now.

The worker owns the reader that it collects from.  When it leaves, the meter loses that reader.
-/

namespace Telemetry.Simulation

/-- A meter that metrics are collected from. -/
structure MeterSource where
  /-- The reader of the meter that collects. -/
  reader : ReaderId
  /-- The meter. -/
  meter : Meter
  /-- What its observable instruments report. -/
  reports : InstrumentId → Report
  /-- The time of a collection. -/
  now : Time
  /-- What was logged in collections. -/
  logs : List LogEntry

/-- The next collection for the reader of the meter. -/
def MeterSource.collect : Source MeterSource := fun s =>
  let (meter, metrics, logs) := s.meter.collect s.reader s.reports s.now
  ({ s with meter := meter, logs := s.logs ++ logs }, 0, .returned metrics)

/-- A periodic reader that collects from a reader of a meter. -/
abbrev MeterStage := Stage PeriodicReader Metric Unit MeterSource

namespace MeterStage

/-- A periodic reader that collects only when it is asked to. -/
def opened (source : MeterSource) : MeterStage :=
  Stage.opened (PeriodicReader.start { exportInterval := 0 } 0) PeriodicReader.workerName
    (.ofScripts [] [] []) source MeterSource.collect

/-- The meter as the periodic reader leaves it. -/
def meter (t : MeterStage) : Meter :=
  if t.hasLeft then t.source.meter.dropReader t.source.reader else t.source.meter

end MeterStage

end Telemetry.Simulation
