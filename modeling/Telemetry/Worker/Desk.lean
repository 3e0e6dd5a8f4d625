import Telemetry.PipelineError

/-!
# Requests to a worker

A processor or a reader does its work on a worker of its own, and other threads put requests to the
worker at its *desk*: to flush, or to shut down.  A request is sent into the inbox together with a
place for the answer.  When the worker leaves, whatever is still in the inbox is dropped, and those
who wait for an answer to it learn that none will come.

The *lifecycle* of a worker goes forward only.  It is running until somebody asks for a shutdown,
then draining, and stopped once the final work is done.  Only one shutdown is ever sent: the first
caller holds the lock of the desk until the outcome is known, and leaves it as the verdict for all
later ones.

The desk has one step for each thing that a caller or the worker does at once.  What a caller does
in which order is told in `Worker.Call`, what the worker does by the worker itself.
-/

namespace Telemetry.Worker

/-! ## Requests -/

/-- How far the life of a worker has gone. -/
inductive Lifecycle where
  /-- Requests are taken. -/
  | running
  /-- A shutdown was asked for. -/
  | draining
  /-- The final work is done. -/
  | stopped
deriving DecidableEq, Repr

namespace Lifecycle

/-- The name of a lifecycle. -/
def name : Lifecycle → String
  | .running => "running"
  | .draining => "draining"
  | .stopped => "stopped"

/-- The place of a lifecycle in their order. -/
def rank : Lifecycle → Nat
  | .running => 0
  | .draining => 1
  | .stopped => 2

end Lifecycle

/-- The number of a caller. -/
abbrev CallerId := Nat

/-- What is asked of a worker.  A flush brings a mark, which tells what it is about. -/
inductive Order (μ : Type) where
  /-- To export what there is. -/
  | flush (mark : μ)
  /-- To export what there is and to stop. -/
  | shutdown
deriving DecidableEq, Repr

/-- A request as it lies in the inbox. -/
structure Request (μ : Type) where
  /-- Who waits for the answer. -/
  caller : CallerId
  /-- What is asked. -/
  order : Order μ
  /-- When the work should be done. -/
  deadline : Nat
deriving DecidableEq, Repr

/-- The place for the answer to a request. -/
inductive Reply where
  /-- There is no answer yet. -/
  | pending
  /-- The worker has answered. -/
  | answered (result : PipelineResult)
  /-- No answer will come. -/
  | abandoned
deriving DecidableEq

/-! ## The desk -/

/-- Where callers and the worker meet. -/
structure Desk (μ : Type) where
  /-- The life of the worker. -/
  lifecycle : Lifecycle
  /-- The requests that were not taken yet, oldest first. -/
  inbox : List (Request μ)
  /-- Whether the worker has left. -/
  hasLeft : Bool
  /-- The place for the answer to each caller. -/
  reply : CallerId → Reply
  /-- Who is about to shut the worker down. -/
  lock : Option CallerId
  /-- The outcome of the shutdown, once it is known. -/
  verdict : Option PipelineResult

namespace Desk

variable {μ : Type}

/-- The desk of a worker that has just started. -/
def initial : Desk μ := ⟨.running, [], false, fun _ => .pending, none, none⟩

/-- The desk with the place for an answer filled. -/
def fill (d : Desk μ) (caller : CallerId) (r : Reply) : Desk μ :=
  { d with reply := fun c => if c = caller then r else d.reply c }

/-- What a caller is told to whom no answer will come: a worker that has stopped was shut down, and
any other one is gone. -/
def gone (d : Desk μ) : PipelineError := if d.lifecycle = .stopped then .shutdown else .workerGone

/-! ## Steps of callers -/

/-- Puts a request into the inbox, unless the worker has left. -/
def send? (d : Desk μ) (r : Request μ) : Option (Desk μ) :=
  if d.hasLeft then none else some ({ d with inbox := d.inbox ++ [r] }.fill r.caller .pending)

/-- Notes a lifecycle. -/
def mark (d : Desk μ) (l : Lifecycle) : Desk μ := { d with lifecycle := l }

/-- Takes the lock, if nobody has it. -/
def acquire? (d : Desk μ) (caller : CallerId) : Option (Desk μ) :=
  if d.lock.isNone then some { d with lock := some caller } else none

/-- Gives the lock back. -/
def release (d : Desk μ) : Desk μ := { d with lock := none }

/-- Leaves a verdict. -/
def conclude (d : Desk μ) (result : PipelineResult) : Desk μ := { d with verdict := some result }

/-! ## Steps of the worker -/

/-- Takes the oldest request out of the inbox. -/
def take? (d : Desk μ) : Option (Request μ × Desk μ) :=
  match d.inbox with
  | [] => none
  | r :: rest => some (r, { d with inbox := rest })

/-- Answers a caller. -/
def answer (d : Desk μ) (caller : CallerId) (result : PipelineResult) : Desk μ :=
  d.fill caller (.answered result)

/-- Drops all requests and leaves. -/
def leave (d : Desk μ) : Desk μ :=
  { (d.inbox.foldl (fun d r => d.fill r.caller .abandoned) d) with inbox := [], hasLeft := true }

/-! ## Laws -/

@[simp] theorem reply_fill_self (d : Desk μ) (caller : CallerId) (r : Reply) :
    (d.fill caller r).reply caller = r := by
  simp [fill]

end Desk

end Telemetry.Worker
