import Telemetry.Failure
import Telemetry.Log
import Telemetry.Text.Quoted

/-!
# Exporting

An exporter takes batches of records and ships them elsewhere.  The pipeline calls it from one
worker only, never twice at a time, and goes on after an export that failed.  Retrying is the
exporter's business.

A call ends by returning or by a panic, and the pipeline counts a panic as a failure of its own
kind.  The exporter in memory keeps what it is given, for whoever wants to look.
-/

namespace Telemetry

/-! ## Errors -/

/-- Why an export failed. -/
inductive ExportError where
  /-- The records could not be sent. -/
  | transport (reason : String)
  /-- The records could not be written down. -/
  | encode (reason : String)
  /-- It took too long. -/
  | timeout
  /-- The exporter takes no more. -/
  | shutDown
  /-- Another reason. -/
  | other (reason : String)
deriving DecidableEq, Repr

namespace ExportError

/-- What an error says. -/
def message : ExportError → String
  | .transport reason => "transport failure: " ++ reason
  | .encode reason => "failed to encode batch: " ++ reason
  | .timeout => "export timed out"
  | .shutDown => "exporter is shut down"
  | .other reason => reason

/-- An error as descriptions show it. -/
def describe : ExportError → String
  | .transport reason => Text.describeCase "Transport" (Text.quote reason)
  | .encode reason => Text.describeCase "Encode" (Text.quote reason)
  | .timeout => "Timeout"
  | .shutDown => "ShutDown"
  | .other reason => Text.describeCase "Other" (Text.quote reason)

/-- The name of the kind of an error. -/
def kind : ExportError → String
  | .transport _ => "Transport"
  | .encode _ => "Encode"
  | .timeout => "Timeout"
  | .shutDown => "ShutDown"
  | .other _ => "Other"

instance : Failure ExportError := ⟨kind, message, fun e => some e.describe, fun _ => none⟩

end ExportError

/-- What a call of an exporter returns. -/
abbrev ExportResult := Except ExportError Unit

instance : DecidableEq ExportResult := fun a b =>
  match a, b with
  | .ok (), .ok () => isTrue rfl
  | .error e, .error f => decidable_of_iff (e = f) (by simp)
  | .ok (), .error _ => isFalse (by simp)
  | .error _, .ok () => isFalse (by simp)

/-- How a call of an exporter or of a source of metrics ends. -/
inductive Outcome (α : Type) where
  /-- It returns. -/
  | returned (value : α)
  /-- It panics. -/
  | panicked
deriving DecidableEq, Repr

/-- A call of an exporter. -/
inductive ExporterCall (ρ : Type) where
  /-- To export a batch. -/
  | deliver (batch : List ρ)
  /-- To send on what it may hold back. -/
  | flush
  /-- To end, in about so many milliseconds. -/
  | shutdown (timeout : Nat)
deriving DecidableEq, Repr

/-- The name of a call in messages. -/
def ExporterCall.name {ρ : Type} : ExporterCall ρ → String
  | .deliver _ => "export"
  | .flush => "flush"
  | .shutdown _ => "shutdown"

/-- What is said about a call that panicked. -/
def panicText (call : String) : String := "exporter panicked during " ++ call

/-- The result of a call: a panic is a failure. -/
def Outcome.result (o : Outcome ExportResult) (call : String) : ExportResult :=
  match o with
  | .returned r => r
  | .panicked => .error (.other (panicText call))

/-- What is logged about the end of a call: that it panicked. -/
def Outcome.logs (o : Outcome ExportResult) (target call : String) : List LogEntry :=
  match o with
  | .returned _ => []
  | .panicked => [⟨.error, target, panicText call⟩]

/-! ## In memory -/

/-- An exporter that keeps all batches. -/
structure MemoryExporter (ρ : Type) where
  /-- The batches, oldest first. -/
  batches : List (List ρ)
  /-- What exports fail with, if they are to fail. -/
  failure : Option ExportError
  /-- How often it was shut down. -/
  shutdownCalls : Nat
deriving DecidableEq

namespace MemoryExporter

variable {ρ : Type}

/-- An exporter that has been given nothing. -/
def empty : MemoryExporter ρ := ⟨[], none, 0⟩

/-- Takes a batch, which is kept even if the export is to fail. -/
def deliver (m : MemoryExporter ρ) (batch : List ρ) : MemoryExporter ρ × ExportResult :=
  ({ m with batches := m.batches ++ [batch] },
    match m.failure with
    | some e => .error e
    | none => .ok ())

/-- Has nothing to send on. -/
def flush (m : MemoryExporter ρ) : MemoryExporter ρ × ExportResult := (m, .ok ())

/-- Counts the call. -/
def shutdown (m : MemoryExporter ρ) : MemoryExporter ρ × ExportResult :=
  ({ m with shutdownCalls := m.shutdownCalls + 1 }, .ok ())

/-- Makes exports fail from now on, or succeed. -/
def setFailure (m : MemoryExporter ρ) (failure : Option ExportError) : MemoryExporter ρ :=
  { m with failure := failure }

/-- Forgets the batches, and nothing else. -/
def reset (m : MemoryExporter ρ) : MemoryExporter ρ := { m with batches := [] }

/-- All records, oldest first. -/
def records (m : MemoryExporter ρ) : List ρ := m.batches.flatten

end MemoryExporter

end Telemetry
