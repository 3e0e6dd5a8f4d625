import Telemetry.Failure
import Telemetry.Log
import Telemetry.SortedMap
import Telemetry.Text.Blank
import Telemetry.Text.Quoted
import Telemetry.Text.Unsigned

/-!
# Settings

The batch processor and the periodic reader have a few settings each, with defaults.  They can be
read from the environment, where a variable that holds no number is logged and passed over, and are
checked before anything is built from them.

Durations are in milliseconds.
-/

namespace Telemetry

/-- The variables of the environment. -/
abbrev Environment := SortedMap String String

/-! ## Errors -/

/-- What is wrong with settings. -/
inductive ConfigError where
  /-- The queue would hold nothing. -/
  | zeroQueueSize
  /-- A batch would hold nothing. -/
  | zeroBatchSize
  /-- The queue would never hold a full batch. -/
  | batchLargerThanQueue (batch queue : Nat)
  /-- There would be no time for anything. -/
  | zeroTimeout
deriving DecidableEq, Repr

namespace ConfigError

/-- What an error says. -/
def message : ConfigError → String
  | .zeroQueueSize => "max queue size must be non-zero"
  | .zeroBatchSize => "max export batch size must be non-zero"
  | .batchLargerThanQueue batch queue =>
    "max export batch size (" ++ toString batch ++ ") must not exceed max queue size ("
      ++ toString queue ++ ")"
  | .zeroTimeout => "timeouts must be non-zero"

/-- An error as descriptions show it. -/
def describe : ConfigError → String
  | .zeroQueueSize => "ZeroQueueSize"
  | .zeroBatchSize => "ZeroBatchSize"
  | .batchLargerThanQueue batch queue =>
    Text.describeRecord "BatchLargerThanQueue" [("batch", toString batch), ("queue", toString queue)]
  | .zeroTimeout => "ZeroTimeout"

/-- The name of the kind of an error. -/
def kind : ConfigError → String
  | .zeroQueueSize => "ZeroQueueSize"
  | .zeroBatchSize => "ZeroBatchSize"
  | .batchLargerThanQueue _ _ => "BatchLargerThanQueue"
  | .zeroTimeout => "ZeroTimeout"

instance : Failure ConfigError := ⟨kind, message, fun e => some e.describe, fun _ => none⟩

end ConfigError

/-! ## Environment -/

/-- The part of the library that logs about settings. -/
def configLogTarget : String := "tributary_engine::config"

/-- The number that a variable holds, or the default.  A variable that holds no number is logged. -/
def Environment.number (env : Environment) (name : String) (otherwise : Nat) : Nat × List LogEntry :=
  match env.get? name with
  | none => (otherwise, [])
  | some raw =>
    match Text.readWord? (Text.trim raw.toList) with
    | some n => (n, [])
    | none =>
      (otherwise,
        [⟨.warn, configLogTarget, "ignoring invalid value for " ++ name ++ ": " ++ Text.quote raw⟩])

/-! ## The batch processor -/

/-- The settings of a batch processor. -/
structure BatchConfig where
  /-- The most records that wait; further ones are dropped. -/
  maxQueueSize : Nat := 2048
  /-- The time between exports while no batch is full.  Zero stands for no timed exports. -/
  scheduledDelay : Nat := 5000
  /-- The most records that are exported at once. -/
  maxBatchSize : Nat := 512
  /-- The time that a flush or a shutdown is given. -/
  exportTimeout : Nat := 30000
deriving DecidableEq, Repr

namespace BatchConfig

instance : Inhabited BatchConfig := ⟨{}⟩

/-- The settings of the environment, and what was logged about it. -/
def ofEnvironment (env : Environment) : BatchConfig × List LogEntry :=
  let standard : BatchConfig := {}
  let (queue, log₁) := env.number "OTEL_BSP_MAX_QUEUE_SIZE" standard.maxQueueSize
  let (delay, log₂) := env.number "OTEL_BSP_SCHEDULE_DELAY" standard.scheduledDelay
  let (batch, log₃) := env.number "OTEL_BSP_MAX_EXPORT_BATCH_SIZE" standard.maxBatchSize
  let (timeout, log₄) := env.number "OTEL_BSP_EXPORT_TIMEOUT" standard.exportTimeout
  (⟨queue, delay, batch, timeout⟩, log₁ ++ log₂ ++ log₃ ++ log₄)

/-- The first thing that is wrong with the settings. -/
def validate (c : BatchConfig) : Except ConfigError Unit :=
  if c.maxQueueSize = 0 then .error .zeroQueueSize
  else if c.maxBatchSize = 0 then .error .zeroBatchSize
  else if c.maxQueueSize < c.maxBatchSize then
    .error (.batchLargerThanQueue c.maxBatchSize c.maxQueueSize)
  else if c.exportTimeout = 0 then .error .zeroTimeout
  else .ok ()

/-- Settings that nothing is wrong with. -/
structure Valid (c : BatchConfig) : Prop where
  /-- The queue holds something. -/
  queue_pos : 0 < c.maxQueueSize
  /-- A batch holds something. -/
  batch_pos : 0 < c.maxBatchSize
  /-- A full batch fits into the queue. -/
  batch_le_queue : c.maxBatchSize ≤ c.maxQueueSize
  /-- There is time. -/
  timeout_pos : 0 < c.exportTimeout

/-- The check accepts exactly the settings that nothing is wrong with. -/
theorem validate_eq_ok_iff {c : BatchConfig} : c.validate = .ok () ↔ c.Valid := by
  unfold validate
  constructor
  · intro h
    split at h <;> try cases h
    split at h <;> try cases h
    split at h <;> try cases h
    split at h <;> try cases h
    exact ⟨by omega, by omega, by omega, by omega⟩
  · rintro ⟨h₁, h₂, h₃, h₄⟩
    rw [if_neg (by omega), if_neg (by omega), if_neg (by omega), if_neg (by omega)]

end BatchConfig

/-! ## The periodic reader -/

/-- The settings of a periodic reader. -/
structure ReaderConfig where
  /-- The time between collections.  Zero stands for none but those asked for. -/
  exportInterval : Nat := 60000
  /-- The time that a collection is given. -/
  exportTimeout : Nat := 30000
deriving DecidableEq, Repr

namespace ReaderConfig

instance : Inhabited ReaderConfig := ⟨{}⟩

/-- The settings of the environment, and what was logged about it. -/
def ofEnvironment (env : Environment) : ReaderConfig × List LogEntry :=
  let standard : ReaderConfig := {}
  let (interval, log₁) := env.number "OTEL_METRIC_EXPORT_INTERVAL" standard.exportInterval
  let (timeout, log₂) := env.number "OTEL_METRIC_EXPORT_TIMEOUT" standard.exportTimeout
  (⟨interval, timeout⟩, log₁ ++ log₂)

/-- What is wrong with the settings. -/
def validate (c : ReaderConfig) : Except ConfigError Unit :=
  if c.exportTimeout = 0 then .error .zeroTimeout else .ok ()

end ReaderConfig

/-! ## Tests -/

example : (BatchConfig.mk 10 0 11 1).validate = .error (.batchLargerThanQueue 11 10) := by rfl
example : (BatchConfig.mk 0 0 0 0).validate = .error .zeroQueueSize := by rfl
example : BatchConfig.ofEnvironment (.ofList [("OTEL_BSP_MAX_QUEUE_SIZE", " +7 ")]) = ({ maxQueueSize := 7 }, []) := by
  decide +kernel
example : (ReaderConfig.ofEnvironment (.ofList [("OTEL_METRIC_EXPORT_INTERVAL", "1s")])).2.map (·.message)
    = ["ignoring invalid value for OTEL_METRIC_EXPORT_INTERVAL: \"1s\""] := by decide +kernel

end Telemetry
