import Telemetry.Config
import Telemetry.Export

/-!
# Errors of the pipeline

A flush or a shutdown of a processor or reader can fail, and so can building one.  Each error may
have another error as its source.
-/

namespace Telemetry

/-- Why a flush or a shutdown failed. -/
inductive PipelineError where
  /-- The deadline passed first.  The work may still be done later. -/
  | timeout
  /-- The pipeline was shut down before. -/
  | shutdown
  /-- An exporter call failed. -/
  | exporter (error : ExportError)
  /-- The worker ended without an answer. -/
  | workerGone
deriving DecidableEq, Repr

namespace PipelineError

/-- What an error says. -/
def message : PipelineError → String
  | .timeout => "timed out waiting for the worker"
  | .shutdown => "pipeline is shut down"
  | .exporter e => "export failed: " ++ e.message
  | .workerGone => "worker thread exited unexpectedly"

/-- An error as descriptions show it. -/
def describe : PipelineError → String
  | .timeout => "Timeout"
  | .shutdown => "Shutdown"
  | .exporter e => Text.describeCase "Export" e.describe
  | .workerGone => "WorkerGone"

/-- What the error behind an error says. -/
def source? : PipelineError → Option String
  | .exporter e => some e.message
  | _ => none

/-- The name of the kind of an error. -/
def kind : PipelineError → String
  | .timeout => "Timeout"
  | .shutdown => "Shutdown"
  | .exporter e => Text.describeCase "Export" e.kind
  | .workerGone => "WorkerGone"

instance : Failure PipelineError := ⟨kind, message, fun e => some e.describe, source?⟩

end PipelineError

/-- What a flush or a shutdown answers. -/
abbrev PipelineResult := Except PipelineError Unit

instance : DecidableEq PipelineResult := fun a b =>
  match a, b with
  | .ok (), .ok () => isTrue rfl
  | .error e, .error f => decidable_of_iff (e = f) (by simp)
  | .ok (), .error _ => isFalse (by simp)
  | .error _, .ok () => isFalse (by simp)

/-- The result of an exporter call as that of a request. -/
def ExportResult.lift (r : ExportResult) : PipelineResult :=
  match r with
  | .ok () => .ok ()
  | .error e => .error (.exporter e)

/-- The first failure of two results in order. -/
def PipelineResult.and (first second : PipelineResult) : PipelineResult :=
  match first with
  | .ok () => second
  | .error e => .error e

/-- Why a processor or reader could not be built. -/
inductive BuildError where
  /-- The settings are wrong. -/
  | config (error : ConfigError)
  /-- The worker could not be started. -/
  | worker (reason : String)
deriving DecidableEq, Repr

namespace BuildError

/-- What an error says. -/
def message : BuildError → String
  | .config e => "invalid configuration: " ++ e.message
  | .worker reason => "failed to start worker: " ++ reason

/-- An error as descriptions show it, if it has a description of its own. -/
def describe? : BuildError → Option String
  | .config e => some (Text.describeCase "Config" e.describe)
  | .worker _ => none

/-- What the error behind an error says. -/
def source? : BuildError → Option String
  | .config e => some e.message
  | .worker reason => some reason

/-- The name of the kind of an error. -/
def kind : BuildError → String
  | .config e => Text.describeCase "Config" e.kind
  | .worker _ => "Worker"

instance : Failure BuildError := ⟨kind, message, describe?, source?⟩

end BuildError

/-! ## Tests -/

example : (PipelineError.exporter (.transport "down")).message = "export failed: transport failure: down" := by
  decide
example : PipelineResult.and (.error .timeout) (.error .shutdown) = .error .timeout := by decide

end Telemetry
