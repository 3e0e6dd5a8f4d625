import Telemetry.Proofs.Batch.Account
import Telemetry.Proofs.Metric.ReaderWorks

/-!
# Processors and readers keep their promises

The two machines with a worker behind a desk are the batch processor and the periodic reader, and
what callers may rely on is the same for both.  A thread that calls several times is several callers.
The worker is taken to leave only after a shutdown: nobody lets go of a machine without one.
-/

namespace Telemetry

open Worker (Front Lifecycle Office)
open Batch (Account)

/-- In every run of a processor or a reader with any callers, at any moment of it. -/
theorem workers_keep_promises {ρ : Type} :
    (∀ o : Office (Account ρ) Nat, o.Reachable → o.Promises) ∧
      ∀ o : Office PeriodicReader Unit, o.Reachable → o.Promises :=
  ⟨fun _ h => h.promises, fun _ h => h.promises⟩

/-- A flush looks at the lifecycle, and then a shutdown is asked for and served before the flush sends
its request. -/
theorem workers_keep_promises_of_overtaken :
    (∃ o : Office (Account Nat) Nat, o.Promises ∧ o.front.desk.lifecycle = .stopped ∧
      o.front.Unanswered 2) ∧
    ∃ o : Office PeriodicReader Unit, o.Promises ∧ o.front.desk.lifecycle = .stopped ∧
      o.front.Unanswered 2 := by
  have hp : Office.Reachable (α := Account Nat) _ :=
    ⟨.opened (Processor.start {} 0), ⟨{}, 0, _, rfl, rfl⟩,
      Office.steps_of_run? [.flush 2, .step 2 5 0, .shutdown 1, .step 1 5 0, .step 1 5 0, .step 1 5 0,
        .step 1 5 0, .inside (.wake .control 1), .inside (.work 1),
        .inside (.conclude (.returned (.ok ()))), .inside (.work 2), .step 2 5 3] rfl⟩
  have hr : Office.Reachable (α := PeriodicReader) _ :=
    ⟨PeriodicReader.start {} 0, ⟨{}, 0, rfl⟩,
      Office.steps_of_run? [.flush 2, .step 2 5 0, .shutdown 1, .step 1 5 0, .step 1 5 0, .step 1 5 0,
        .step 1 5 0, .inside (.wake .control 1), .inside (.collect 1 .panicked), .inside (.work 1),
        .inside (.conclude .panicked), .inside (.work 2), .step 2 5 3] rfl⟩
  refine ⟨⟨_, (workers_keep_promises (ρ := Nat)).1 _ hp, rfl, 0, .inr ⟨8, rfl, ?_⟩⟩,
    ⟨_, (workers_keep_promises (ρ := Nat)).2 _ hr, rfl, (), .inr ⟨8, rfl, ?_⟩⟩⟩
  · intro r hr
    cases hr
  · intro r hr
    cases hr

end Telemetry
