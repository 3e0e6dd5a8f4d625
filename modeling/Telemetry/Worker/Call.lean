import Telemetry.Worker.Desk

/-!
# Callers of a worker

A caller goes through a few phases, one step of the desk at a time, so that whatever other callers
and the worker do can come between any two of them.

* A flush looks at the lifecycle, sends its request and waits.
* A shutdown takes the lock of the desk.  It ends at once if there is a verdict.  Otherwise it marks
  the worker as draining, sends its request and waits; then, unless it has given up, it waits until
  the worker has left and marks it as stopped; and it leaves what it has got as the verdict.

Waiting ends with an answer, with the news that none will come, or at the deadline.  A caller without
any time does not wait at all: the worker gets its request, but the caller has given up by then.
Timeouts are short enough for the clock to tell the deadline.  With a longer one a caller would panic
before it sends anything.
-/

namespace Telemetry.Worker

/-- How far a caller has got. -/
inductive Phase (μ : Type) where
  /-- A flush is about to look at the lifecycle. -/
  | checking (mark : μ)
  /-- A shutdown is about to take the lock. -/
  | locking
  /-- A shutdown that has the lock is about to look for a verdict. -/
  | consulting
  /-- A shutdown is about to mark the worker as draining. -/
  | marking
  /-- A request is about to be sent. -/
  | sending (order : Order μ)
  /-- An answer is waited for, until a time. -/
  | waiting (order : Order μ) (deadline : Nat)
  /-- A shutdown waits until the worker has left. -/
  | joining (result : PipelineResult)
  /-- A shutdown is about to leave its result as the verdict. -/
  | concluding (result : PipelineResult)
  /-- The call has ended. -/
  | done (result : PipelineResult)
deriving DecidableEq

namespace Phase

variable {μ : Type}

/-- The result of a call that has ended. -/
def result? : Phase μ → Option PipelineResult
  | .done r => some r
  | _ => none

/-- What a call goes on with when its request has ended with a result. -/
def after (order : Order μ) (result : PipelineResult) : Phase μ :=
  match order with
  | .flush _ => .done result
  | .shutdown => if result = .error .timeout then .concluding result else .joining result

/-- One step of a caller, if it has not to wait for others. -/
def step? (d : Desk μ) (caller : CallerId) (timeout now : Nat) : Phase μ → Option (Desk μ × Phase μ)
  | .checking mark =>
    some (d, if d.lifecycle = .running then .sending (.flush mark) else .done (.error .shutdown))
  | .locking => (d.acquire? caller).map fun d => (d, .consulting)
  | .consulting =>
    match d.verdict with
    | some r => some (d.release, .done r)
    | none => some (d, .marking)
  | .marking => some (d.mark .draining, .sending .shutdown)
  | .sending order =>
    match d.send? ⟨caller, order, now + timeout⟩ with
    | some d =>
      some (d, if timeout = 0 then after order (.error .timeout) else .waiting order (now + timeout))
    | none => some (d, after order (.error d.gone))
  | .waiting order _ =>
    match d.reply caller with
    | .pending => none
    | .answered r => some (d, after order r)
    | .abandoned => some (d, after order (.error d.gone))
  | .joining r => if d.hasLeft then some (d.mark .stopped, .concluding r) else none
  | .concluding r => some ((d.conclude r).release, .done r)
  | .done _ => none

/-- A caller gives up waiting for an answer. -/
def giveUp? : Phase μ → Option (Phase μ)
  | .waiting order _ => some (after order (.error .timeout))
  | _ => none

/-- The time at which a caller stops waiting. -/
def deadline? : Phase μ → Option Nat
  | .waiting _ deadline => some deadline
  | _ => none

end Phase

end Telemetry.Worker
