import Telemetry.Clock
import Telemetry.Metric.Point
import Telemetry.Worker.Desk

/-!
# The periodic reader

A worker asks a source for metrics every so often and hands what it gets to the exporter.  It does
the same when a flush or a shutdown is asked for, and after that flushes the exporter or shuts it
down.  Nothing is exported of a collection without metrics, and nothing of one that took too long:
its metrics are dropped.  A collection that panics counts as a failed export.

The time of the next collection is set after each collection on time.  One that is asked for in
between does not move it.

The worker adds two durations to the present: the interval when it sets the time of the next
collection, and the timeout when a collection is due.  Where that gets past the last instant of the
clock it panics (`perish?`), outside of what it guards against panics, and no one is served any more.

Like the batch processor, the reader is a machine.  `advance?` is what its worker does by itself,
`collected` and `returned` are what it does when a collection or an exporter call ends.
-/

namespace Telemetry

open Worker (CallerId Desk Request)

/-! ## Activities -/

/-- What a collection is for. -/
inductive Occasion where
  /-- It was time for it. -/
  | tick
  /-- A flush. -/
  | flush (caller : CallerId)
  /-- A shutdown. -/
  | shutdown (caller : CallerId)
deriving DecidableEq, Repr

/-- What a worker collects for when it has taken up a request. -/
def Occasion.serving (r : Request Unit) : Occasion :=
  match r.order with
  | .flush () => .flush r.caller
  | .shutdown => .shutdown r.caller

/-- What can wake a reader's worker. -/
inductive PeriodicReader.Waking where
  /-- The channel of requests: one has come, or none can come any more. -/
  | control
  /-- The timer. -/
  | timer
deriving DecidableEq, Repr

/-- What the worker is doing. -/
inductive ReaderActivity where
  /-- It sleeps. -/
  | idle
  /-- It has asked the source, and the collection should end before the deadline. -/
  | collecting (occasion : Occasion) (deadline : Nat)
  /-- It has handed metrics to the exporter. -/
  | exporting (metrics : List Metric) (occasion : Occasion) (deadline : Nat)
  /-- The collection and the export have ended. -/
  | exported (result : PipelineResult) (occasion : Occasion) (deadline : Nat)
  /-- It has asked the exporter to flush, with the result of the flush so far. -/
  | flushingExporter (caller : CallerId) (result : PipelineResult)
  /-- It has asked the exporter to shut down, with the result of the shutdown so far. -/
  | closingExporter (caller : CallerId) (timeout : Nat) (result : PipelineResult)
  /-- It is about to note that it has stopped. -/
  | stopping (caller : CallerId) (result : PipelineResult)
  /-- It is about to answer a request, which may be its last one. -/
  | answering (caller : CallerId) (result : PipelineResult) (last : Bool)
  /-- It is about to leave. -/
  | leaving
  /-- It has left. -/
  | gone
deriving DecidableEq

/-! ## The reader -/

/-- A periodic reader: its desk and its worker. -/
structure PeriodicReader where
  /-- Its settings. -/
  config : ReaderConfig
  /-- Where requests are put. -/
  desk : Desk Unit
  /-- Whether nobody holds the reader any more. -/
  isOrphan : Bool
  /-- What the worker is doing. -/
  activity : ReaderActivity
  /-- When the next collection is due. -/
  nextCollection : Nat

namespace PeriodicReader

/-- What the worker is called unless it is given a name. -/
def workerName : String := "tributary-reader"

/-- A reader whose worker starts now. -/
def start (config : ReaderConfig) (now : Nat) : PeriodicReader :=
  ⟨config, .initial, false, .idle, now + config.exportInterval⟩

/-- The reader of settings that nothing is wrong with. -/
def build (config : ReaderConfig) (now : Nat) : Except BuildError PeriodicReader :=
  match config.validate with
  | .ok () => .ok (start config now)
  | .error e => .error (.config e)

/-- Lets go of the reader without shutting it down. -/
def drop (r : PeriodicReader) : PeriodicReader := { r with isOrphan := true }

/-! ## What is logged -/

/-- The part of the library that logs about readers. -/
def logTarget : String := "tributary_engine::reader"

/-- What is said about a collection that panicked. -/
def collectionPanic : String := "metric collection panicked"

/-- What is logged about a collection that took too long. -/
def overrun (count : Nat) : LogEntry :=
  ⟨.warn, logTarget, "collection overran its deadline, dropping " ++ toString count ++ " points"⟩

/-- What is logged about the end of an export. -/
def exportLogs (count : Nat) (o : Outcome ExportResult) : List LogEntry :=
  o.logs logTarget "export" ++
    match o.result "export" with
    | .ok () => []
    | .error e =>
      [⟨.error, logTarget, "failed to export " ++ toString count ++ " metric points: " ++ e.message⟩]

/-! ## The worker -/

/-- When the timer wakes the worker, if it sleeps and collects on time. -/
def alarm? (r : PeriodicReader) : Option Nat :=
  match r.activity with
  | .idle => if r.config.exportInterval = 0 then none else some r.nextCollection
  | _ => none

/-- The exporter call that is under way. -/
def call? (r : PeriodicReader) : Option (ExporterCall Metric) :=
  match r.activity with
  | .exporting metrics _ _ => some (.deliver metrics)
  | .flushingExporter _ _ => some .flush
  | .closingExporter _ timeout _ => some (.shutdown timeout)
  | _ => none

/-- Whether a collection is under way. -/
def isCollecting (r : PeriodicReader) : Bool :=
  match r.activity with
  | .collecting _ _ => true
  | _ => false

/-- Whether it is time for a collection. -/
def isDue (r : PeriodicReader) (now : Nat) : Bool :=
  r.config.exportInterval ≠ 0 && r.nextCollection ≤ now

/-- What a worker does when something wakes it, if it is the case and the worker survives it. -/
def rouse? (r : PeriodicReader) (now : Nat) (cause : Waking) :
    Option (PeriodicReader × List LogEntry) :=
  if Clock.Tells r.nextCollection then
    match cause with
    | .control =>
      match r.desk.take? with
      | some (request, desk) =>
        some ({ r with desk := desk, activity := .collecting (.serving request) request.deadline }, [])
      | none =>
        if r.isOrphan then
          some ({ r with desk := r.desk.mark .stopped, activity := .leaving },
            [⟨.debug, logTarget, "periodic reader dropped without shutdown"⟩])
        else none
    | .timer =>
      let deadline := now + r.config.exportTimeout
      if r.isDue now && Clock.Tells deadline then
        some ({ r with activity := .collecting .tick deadline }, [])
      else none
  else none

/-- What the first thing does that wakes the worker, if anything does. -/
def wake? (r : PeriodicReader) (now : Nat) : Option (PeriodicReader × List LogEntry) :=
  [.control, .timer].findSome? (r.rouse? now)

/-- The reader whose worker has panicked, if that is what comes next: nothing wakes it although it is
time for a collection, or the time of the next one cannot be told.  The worker does not note that it
has stopped. -/
def perish? (r : PeriodicReader) (now : Nat) : Option PeriodicReader :=
  match r.activity with
  | .idle =>
    if (r.wake? now).isNone && (r.isDue now || !Clock.Tells r.nextCollection) then
      some { r with desk := r.desk.leave, activity := .gone }
    else none
  | _ => none

/-- What the worker does when a collection ends. -/
def collected (r : PeriodicReader) (now : Nat) (o : Outcome (List Metric)) :
    PeriodicReader × List LogEntry :=
  match r.activity with
  | .collecting occasion deadline =>
    let ended (result : PipelineResult) : PeriodicReader :=
      { r with activity := .exported result occasion deadline }
    match o with
    | .panicked =>
      (ended (.error (.exporter (.other collectionPanic))), [⟨.error, logTarget, collectionPanic⟩])
    | .returned metrics =>
      if metrics.isEmpty then (ended (.ok ()), [])
      else if deadline ≤ now then (ended (.error .timeout), [overrun metrics.length])
      else ({ r with activity := .exporting metrics occasion deadline }, [])
  | _ => (r, [])

/-- The next thing that the worker does by itself, if it waits for nothing. -/
def advance? (r : PeriodicReader) (now : Nat) : Option (PeriodicReader × List LogEntry) :=
  match r.activity with
  | .idle => r.wake? now
  | .exported _ .tick _ =>
    some ({ r with activity := .idle, nextCollection := now + r.config.exportInterval }, [])
  | .exported result (.flush caller) _ => some ({ r with activity := .flushingExporter caller result }, [])
  | .exported result (.shutdown caller) deadline =>
    some ({ r with activity := .closingExporter caller (deadline - now) result }, [])
  | .stopping caller result =>
    some ({ r with desk := r.desk.mark .stopped, activity := .answering caller result true },
      [⟨.debug, logTarget, "periodic reader stopped"⟩])
  | .answering caller result last =>
    some ({ r with
      desk := r.desk.answer caller result
      activity := if last then .leaving else .idle }, [])
  | .leaving => some ({ r with desk := r.desk.leave, activity := .gone }, [])
  | .collecting _ _ | .exporting _ _ _ | .flushingExporter _ _ | .closingExporter _ _ _ | .gone => none

/-- What the worker does when the exporter call that is under way ends. -/
def returned (r : PeriodicReader) (o : Outcome ExportResult) : PeriodicReader × List LogEntry :=
  match r.activity with
  | .exporting metrics occasion deadline =>
    ({ r with activity := .exported (o.result "export").lift occasion deadline },
      exportLogs metrics.length o)
  | .flushingExporter caller result =>
    ({ r with activity := .answering caller (result.and (o.result "flush").lift) false },
      o.logs logTarget "flush")
  | .closingExporter caller _ result =>
    ({ r with activity := .stopping caller (result.and (o.result "shutdown").lift) },
      o.logs logTarget "shutdown")
  | _ => (r, [])

end PeriodicReader

end Telemetry
