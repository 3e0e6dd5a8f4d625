import Telemetry.Batch.Queue
import Telemetry.Clock
import Telemetry.Worker.Desk

/-!
# The batch processor

Producers put records into a bounded queue without ever waiting, and a worker takes them out in
batches and hands these to the exporter.  A record that the queue refuses is dropped and counted.

The worker sleeps until it is asked something, until a producer reports that a full batch has come
together, or until the time of the next timed export.  If several of these are the case the request
comes first and the timer last.

* A full batch: batches are exported as long as the queue holds a full one.
* The timer: one batch is exported, whatever its size, and then full ones as before.
* A flush: batches are exported until all records that were accepted before the call are handed out.
  Then the exporter is flushed.  The deadline is tested before each batch, and once it has passed the
  flush ends there.
* A shutdown: batches are exported until the queue is empty, and it is closed in the same moment.
  When the deadline is found to have passed, the queue is closed and what it holds is dropped and
  counted.  In either case the exporter is shut down then, and the worker stops.

An export that fails or panics is logged and not tried again.  A request is answered with its first
failure.

The processor is a machine.  `advance?` is the next thing that the worker does by itself, `returned`
what it does when an exporter call ends, and between any two of them other threads may do their
steps: `offer` and `settle`, which make up an `enqueue`, and the steps of callers at the desk.  The
clock is read once in each step, and comes from outside.  Whoever runs the machine asks `perish?`
first: the worker panics when the time of its next timed export is past the last instant of the
clock.  With delays of less than a hundred billion years that does not happen.
-/

namespace Telemetry

open Worker (CallerId Desk Request)

/-! ## Activities -/

/-- What the worker goes on with after an export. -/
inductive Resumption where
  /-- Exporting full batches. -/
  | passing
  /-- A flush. -/
  | flushing (caller : CallerId) (target deadline : Nat) (result : PipelineResult)
  /-- A shutdown. -/
  | draining (caller : CallerId) (deadline : Nat) (result : PipelineResult)
deriving DecidableEq

/-- What goes on after an export with the given result. -/
def Resumption.noting (r : ExportResult) : Resumption → Resumption
  | .passing => .passing
  | .flushing caller target deadline result => .flushing caller target deadline (result.and r.lift)
  | .draining caller deadline result => .draining caller deadline (result.and r.lift)

/-- What a worker goes on with when it has taken up a request. -/
def Resumption.serving (r : Request Nat) : Resumption :=
  match r.order with
  | .flush target => .flushing r.caller target r.deadline (.ok ())
  | .shutdown => .draining r.caller r.deadline (.ok ())

/-- What can wake a worker. -/
inductive Processor.Waking where
  /-- The channel of requests: one has come, or none can come any more. -/
  | control
  /-- A producer that has reported a full batch. -/
  | report
  /-- The timer. -/
  | timer
deriving DecidableEq, Repr

/-- What the worker is doing. -/
inductive Activity (ρ : Type) where
  /-- It sleeps. -/
  | idle
  /-- It is about to do the next step of something. -/
  | going (next : Resumption)
  /-- It has handed a batch to the exporter. -/
  | exporting (batch : List ρ) (next : Resumption)
  /-- It has asked the exporter to flush, with the result of the flush so far. -/
  | flushingExporter (caller : CallerId) (result : PipelineResult)
  /-- It has asked the exporter to shut down, with the result of the shutdown so far. -/
  | closingExporter (caller : CallerId) (timeout : Nat) (result : PipelineResult)
  /-- It is about to note that it has stopped. -/
  | stopping (caller : CallerId) (result : PipelineResult)
  /-- It is about to answer a request, which may be its last one. -/
  | answering (caller : CallerId) (result : PipelineResult) (last : Bool)
  /-- It is about to leave. -/
  | leaving
  /-- It has left. -/
  | gone
deriving DecidableEq

/-! ## The processor -/

/-- A batch processor: its queue, its desk and its worker. -/
structure Processor (ρ : Type) where
  /-- Its settings. -/
  config : BatchConfig
  /-- The records that wait. -/
  queue : BoundedQueue ρ
  /-- Whether a producer has reported a full batch that the worker has not looked after. -/
  permit : Bool
  /-- How many records were dropped. -/
  dropped : Nat
  /-- Where requests are put; a flush is marked by the number of records accepted before it. -/
  desk : Desk Nat
  /-- Whether nobody holds the processor any more. -/
  isOrphan : Bool
  /-- What the worker is doing. -/
  activity : Activity ρ
  /-- When the next timed export is due. -/
  nextExport : Nat

namespace Processor

variable {ρ : Type}

/-- What the worker is called unless it is given a name. -/
def workerName : String := "tributary-batch"

/-- A processor whose worker starts now. -/
def start (config : BatchConfig) (now : Nat) : Processor ρ :=
  ⟨config, .ofCapacity config.maxQueueSize, false, 0, .initial, false, .idle, now + config.scheduledDelay⟩

/-- The processor of settings that nothing is wrong with. -/
def build (config : BatchConfig) (now : Nat) : Except BuildError (Processor ρ) :=
  match config.validate with
  | .ok () => .ok (start config now)
  | .error e => .error (.config e)

/-! ## Producers -/

/-- What a producer has still to do after its record was accepted or refused. -/
inductive Aftermath where
  /-- To report a full batch. -/
  | report
  /-- Nothing. -/
  | nothing
  /-- To count the record as dropped. -/
  | count
deriving DecidableEq, Repr

/-- Offers a record to the queue. -/
def offer (p : Processor ρ) (r : ρ) : Processor ρ × Aftermath :=
  let (queue, outcome) := p.queue.push r
  ({ p with queue := queue },
    match outcome with
    | .ok size => if p.config.maxBatchSize ≤ size then .report else .nothing
    | .error _ => .count)

/-- Does what is still to do after an offer. -/
def settle (p : Processor ρ) : Aftermath → Processor ρ
  | .report => { p with permit := true }
  | .nothing => p
  | .count => { p with dropped := p.dropped + 1 }

/-- Accepts a record or drops it. -/
def enqueue (p : Processor ρ) (r : ρ) : Processor ρ :=
  let (p, aftermath) := p.offer r
  p.settle aftermath

/-- Lets go of the processor without shutting it down. -/
def drop (p : Processor ρ) : Processor ρ := { p with isOrphan := true }

/-! ## What is logged -/

/-- The part of the library that logs about processors. -/
def logTarget : String := "tributary_engine::processor"

/-- What is logged about the end of an export. -/
def exportLogs (count : Nat) (o : Outcome ExportResult) : List LogEntry :=
  o.logs logTarget "export" ++
    match o.result "export" with
    | .ok () => [⟨.trace, logTarget, "exported " ++ toString count ++ " records"⟩]
    | .error e =>
      [⟨.error, logTarget, "failed to export " ++ toString count ++ " records: " ++ e.message⟩]

/-- What is logged when records are discarded, if there are any. -/
def discardLogs (reason : String) (count : Nat) : List LogEntry :=
  if count = 0 then []
  else [⟨.warn, logTarget, reason ++ ", discarding " ++ toString count ++ " records"⟩]

/-! ## The worker -/

/-- The worker goes to sleep, and the time until the next timed export starts anew. -/
def sleep (p : Processor ρ) (now : Nat) : Processor ρ :=
  { p with activity := .idle, nextExport := now + p.config.scheduledDelay }

/-- When the timer wakes the worker, if it sleeps and exports on time. -/
def alarm? (p : Processor ρ) : Option Nat :=
  match p.activity with
  | .idle => if p.config.scheduledDelay = 0 then none else some p.nextExport
  | _ => none

/-- The exporter call that is under way. -/
def call? (p : Processor ρ) : Option (ExporterCall ρ) :=
  match p.activity with
  | .exporting batch _ => some (.deliver batch)
  | .flushingExporter _ _ => some .flush
  | .closingExporter _ timeout _ => some (.shutdown timeout)
  | _ => none

/-- Hands the records that a pop gives to the exporter, or goes on if there are none. -/
def hand (p : Processor ρ) (popped : BoundedQueue ρ × List ρ) (next : Resumption)
    (otherwise : Processor ρ) : Processor ρ :=
  if popped.2.isEmpty then otherwise else { p with queue := popped.1, activity := .exporting popped.2 next }

/-- The processor was let go: what waits is discarded, and the exporter is not told. -/
def abandon (p : Processor ρ) : Processor ρ × List LogEntry :=
  let (queue, discarded) := p.queue.close
  ({ p with queue := queue, desk := p.desk.mark .stopped, activity := .leaving },
    discardLogs "batch processor dropped without shutdown" discarded.length)

/-- What a worker does when something wakes it, if it is the case. -/
def rouse? (p : Processor ρ) (now : Nat) : Waking → Option (Processor ρ × List LogEntry)
  | .control =>
    match p.desk.take? with
    | some (r, desk) => some ({ p with desk := desk, activity := .going (.serving r) }, [])
    | none => if p.isOrphan then some p.abandon else none
  | .report => if p.permit then some ({ p with permit := false, activity := .going .passing }, []) else none
  | .timer =>
    if p.config.scheduledDelay ≠ 0 ∧ p.nextExport ≤ now then
      some (p.hand (p.queue.popBatch p.config.maxBatchSize) .passing
        { p with activity := .going .passing }, [])
    else none

/-- What the first thing does that wakes the worker, if anything does. -/
def wake? (p : Processor ρ) (now : Nat) : Option (Processor ρ × List LogEntry) :=
  [.control, .report, .timer].findSome? (p.rouse? now)

/-- The processor whose worker has panicked, if the time of the next timed export cannot be told.  The
worker does not note that it has stopped. -/
def perish? (p : Processor ρ) : Option (Processor ρ) :=
  match p.activity with
  | .idle =>
    if Clock.Tells p.nextExport then none else some { p with desk := p.desk.leave, activity := .gone }
  | _ => none

/-- Exports the next full batch, or sleeps. -/
def pass (p : Processor ρ) (now : Nat) : Processor ρ :=
  if p.queue.size < p.config.maxBatchSize then p.sleep now
  else
    let (queue, batch) := p.queue.popBatch p.config.maxBatchSize
    { p with queue := queue, activity := .exporting batch .passing }

/-- The next step of a flush. -/
def flushStep (p : Processor ρ) (now : Nat) (caller : CallerId) (target deadline : Nat)
    (result : PipelineResult) : Processor ρ :=
  if deadline ≤ now then { p with activity := .answering caller (.error .timeout) false }
  else
    p.hand (p.queue.popUntil p.config.maxBatchSize target) (.flushing caller target deadline result)
      { p with activity := .flushingExporter caller result }

/-- The next step of a shutdown. -/
def drainStep (p : Processor ρ) (now : Nat) (caller : CallerId) (deadline : Nat) (result : PipelineResult) :
    Processor ρ × List LogEntry :=
  if deadline ≤ now then
    let (queue, discarded) := p.queue.close
    ({ p with
        queue := queue
        dropped := p.dropped + discarded.length
        activity := .closingExporter caller (deadline - now) (result.and (.error .timeout)) },
      discardLogs "shutdown deadline passed" discarded.length)
  else
    (p.hand (p.queue.popBatch p.config.maxBatchSize) (.draining caller deadline result)
      { p with
          queue := p.queue.close.1
          activity := .closingExporter caller (deadline - now) result }, [])

/-- The next thing that the worker does by itself, if it waits for nothing. -/
def advance? (p : Processor ρ) (now : Nat) : Option (Processor ρ × List LogEntry) :=
  match p.activity with
  | .idle => p.wake? now
  | .going .passing => some (p.pass now, [])
  | .going (.flushing caller target deadline result) =>
    some (p.flushStep now caller target deadline result, [])
  | .going (.draining caller deadline result) => some (p.drainStep now caller deadline result)
  | .stopping caller result =>
    some ({ p with desk := p.desk.mark .stopped, activity := .answering caller result true },
      [⟨.debug, logTarget, "batch processor stopped"⟩])
  | .answering caller result last =>
    let answered := { p with desk := p.desk.answer caller result }
    some (if last then { answered with activity := .leaving } else answered.sleep now, [])
  | .leaving => some ({ p with desk := p.desk.leave, activity := .gone }, [])
  | .exporting _ _ | .flushingExporter _ _ | .closingExporter _ _ _ | .gone => none

/-- What the worker does when the exporter call that is under way ends. -/
def returned (p : Processor ρ) (o : Outcome ExportResult) : Processor ρ × List LogEntry :=
  match p.activity with
  | .exporting batch next =>
    ({ p with activity := .going (next.noting (o.result "export")) },
      exportLogs batch.length o)
  | .flushingExporter caller result =>
    ({ p with activity := .answering caller (result.and (o.result "flush").lift) false },
      o.logs logTarget "flush")
  | .closingExporter caller _ result =>
    ({ p with activity := .stopping caller (result.and (o.result "shutdown").lift) },
      o.logs logTarget "shutdown")
  | _ => (p, [])

end Processor

end Telemetry
