import Telemetry.Export

/-!
# Scripted exporters

An exporter that answers its calls as it was told beforehand and keeps what it is given.  While it
is *held* an export does not get past its beginning, so that whoever runs a simulation can look at
what happens meanwhile.
-/

namespace Telemetry.Simulation

/-- An exporter call as it is noted. -/
inductive Noted where
  /-- An export of so many records. -/
  | deliver (count : Nat)
  /-- A flush. -/
  | flush
  /-- A shutdown. -/
  | shutdown
deriving DecidableEq, Repr

/-- An exporter that answers as it was told. -/
structure ScriptedExporter (ρ : Type) where
  /-- How the next exports end; those after the last succeed. -/
  exports : List (Outcome ExportResult)
  /-- How the next flushes end. -/
  flushes : List (Outcome ExportResult)
  /-- How the next shutdowns end. -/
  shutdowns : List (Outcome ExportResult)
  /-- Whether exports are held up. -/
  held : Bool
  /-- What it was given. -/
  memory : MemoryExporter ρ
  /-- Its calls, in order. -/
  calls : List Noted
  /-- How many exports have begun. -/
  started : Nat
  /-- How many exports have ended. -/
  finished : Nat

namespace ScriptedExporter

variable {ρ : Type}

/-- An exporter that was not called yet. -/
def ofScripts (exports flushes shutdowns : List (Outcome ExportResult)) : ScriptedExporter ρ :=
  ⟨exports, flushes, shutdowns, false, .empty, [], 0, 0⟩

/-- The next answer of a script. -/
def next (script : List (Outcome ExportResult)) : Outcome ExportResult := script.headD (.returned (.ok ()))

/-- The beginning of a call. -/
def begin (e : ScriptedExporter ρ) : ExporterCall ρ → ScriptedExporter ρ
  | .deliver batch => { e with calls := e.calls ++ [.deliver batch.length], started := e.started + 1 }
  | .flush => { e with calls := e.calls ++ [.flush] }
  | .shutdown _ => { e with calls := e.calls ++ [.shutdown] }

/-- Whether a call is held up. -/
def holds (e : ScriptedExporter ρ) : ExporterCall ρ → Bool
  | .deliver _ => e.held
  | _ => false

/-- The end of a call. -/
def finish (e : ScriptedExporter ρ) : ExporterCall ρ → ScriptedExporter ρ × Outcome ExportResult
  | .deliver batch =>
    ({ e with
        memory := (e.memory.deliver batch).1
        exports := e.exports.tail
        finished := e.finished + 1 }, next e.exports)
  | .flush => ({ e with flushes := e.flushes.tail }, next e.flushes)
  | .shutdown _ =>
    ({ e with
        memory := e.memory.shutdown.1
        shutdowns := e.shutdowns.tail }, next e.shutdowns)

end ScriptedExporter

end Telemetry.Simulation
