import Telemetry.PipelineError

/-!
# Results of requests

A request makes several exporter calls, and its result is the first failure among theirs.  No result
that comes from the exporter says that the worker is gone.
-/

namespace Telemetry

/-- The first failure of some results in order. -/
def PipelineResult.first (rs : List PipelineResult) : PipelineResult :=
  (rs.find? fun r => r ≠ .ok ()).getD (.ok ())

namespace PipelineResult

@[simp] theorem and_ok (r : PipelineResult) : r.and (.ok ()) = r := by
  cases r <;> rfl

theorem first_concat (rs : List PipelineResult) (r : PipelineResult) :
    first (rs ++ [r]) = (first rs).and r := by
  unfold first
  rw [List.find?_append]
  cases hf : rs.find? fun r => r ≠ .ok () with
  | none =>
      cases r with
      | ok => rfl
      | error e => rfl
  | some s =>
      have hs := List.find?_some hf
      cases s with
      | ok => simp at hs
      | error e => rfl

theorem first_eq_ok_iff {rs : List PipelineResult} : first rs = .ok () ↔ ∀ r ∈ rs, r = .ok () := by
  unfold first
  cases hf : rs.find? fun r => r ≠ .ok () with
  | none => simpa using List.find?_eq_none.1 hf
  | some s =>
      have hs := List.find?_some hf
      have hm := List.mem_of_find?_eq_some hf
      simp only [Option.getD_some]
      constructor
      · intro h
        simp [h] at hs
      · exact fun h => h s hm

theorem lift_eq_ok_iff (o : Outcome ExportResult) (call : String) :
    (o.result call).lift = .ok () ↔ o = .returned (.ok ()) := by
  cases o with
  | returned r => cases r <;> simp [Outcome.result, ExportResult.lift]
  | panicked => simp [Outcome.result, ExportResult.lift]

theorem and_ne_gone {r s : PipelineResult} (hr : r ≠ .error .workerGone)
    (hs : s ≠ .error .workerGone) : r.and s ≠ .error .workerGone := by
  unfold PipelineResult.and
  split
  · exact hs
  · exact hr

end PipelineResult

theorem ExportResult.lift_ne_gone (r : ExportResult) : r.lift ≠ .error .workerGone := by
  cases r <;> simp [ExportResult.lift]

end Telemetry
