import Telemetry.Export
import Telemetry.Wire.Frame
import Telemetry.Wire.Message

/-!
# Sending to a collector

Records go to a collector over a connection that is opened when there is something to send.  A new
connection begins with the handshake, and then the frames of one batch after the other are written
to it.  When a write fails the connection is given up, since nobody knows how much of the batch has
arrived, and the rest of the batch is lost with it.  The next connection is attempted with the next
batch, but never within five seconds of the attempt before.

The frames of a batch are put together in a buffer, which an exporter keeps for the next batch.

What the network does is given from outside, as the outcome of an attempt to connect and of a write.
What it has seen is kept: `attempts` are the times at which a connection was attempted, and `wires`
are, for each connection that was opened, the bytes that went out on it.
-/

namespace Telemetry

/-! ## What the network does -/

/-- An error of the operating system. -/
structure SystemError where
  /-- Its number. -/
  code : Nat
  /-- Its kind. -/
  kind : String
  /-- What it says. -/
  text : String
deriving DecidableEq, Repr

namespace SystemError

/-- What an error says, with its number. -/
def message (e : SystemError) : String := e.text ++ " (os error " ++ toString e.code ++ ")"

/-- An error as descriptions show it. -/
def describe (e : SystemError) : String :=
  Text.describeRecord "Os" [("code", toString e.code), ("kind", e.kind), ("message", Text.quote e.text)]

/-- No way leads to the other side. -/
def networkUnreachable : SystemError := ⟨101, "NetworkUnreachable", "Network is unreachable"⟩

/-- The other side has closed the connection. -/
def brokenPipe : SystemError := ⟨32, "BrokenPipe", "Broken pipe"⟩

end SystemError

/-- How a write of some bytes ended. -/
inductive WriteOutcome where
  /-- All of them went out. -/
  | complete
  /-- Only so many of them went out. -/
  | failed (sent : Nat) (error : SystemError)
deriving DecidableEq, Repr

/-- The bytes that went out. -/
def WriteOutcome.sent (o : WriteOutcome) (bytes : List UInt8) : List UInt8 :=
  match o with
  | .complete => bytes
  | .failed n _ => bytes.take n

/-- How an attempt to connect ended. -/
inductive ConnectOutcome where
  /-- The host is not known. -/
  | unresolved (reason : String)
  /-- The host has no address. -/
  | noAddress
  /-- Nobody answered at the address. -/
  | refused (address : String) (error : SystemError)
  /-- There is a connection, but it could not be set up, and nothing was written to it. -/
  | unusable (error : SystemError)
  /-- There is a connection, and so ended the writing of the handshake. -/
  | opened (address : String) (handshake : WriteOutcome)
deriving DecidableEq, Repr

/-! ## Connections -/

/-- The way to a collector. -/
structure Connection where
  /-- The host and port of the collector. -/
  host : String
  /-- What the handshake tells. -/
  fields : Wire.Handshake
  /-- The number of the wire that is open, if there is one. -/
  current : Option Nat
  /-- When a connection was last attempted. -/
  lastAttempt : Option Nat
  /-- When connections were attempted, in order. -/
  attempts : List Nat
  /-- The bytes that went out on each wire. -/
  wires : List (List UInt8)
deriving DecidableEq

namespace Connection

/-- A connection that was not attempted yet. -/
def new (host : String) (fields : Wire.Handshake) : Connection := ⟨host, fields, none, none, [], []⟩

/-- The least time between two attempts to connect: five seconds, in nanoseconds. -/
def reconnectInterval : Nat := 5000000000

/-- The part of the library that logs about sending. -/
def logTarget : String := "tributary::exporter"

/-- What a sending fails with that may not connect yet. -/
def notConnected : ExportError := .transport "not connected"

/-- The connection with bytes gone out on a wire. -/
def sendOn (c : Connection) (wire : Nat) (bytes : List UInt8) : Connection :=
  { c with wires := c.wires.modify wire (· ++ bytes) }

/-- Whether it is too soon for another attempt to connect. -/
def isThrottled (c : Connection) (now : Nat) : Bool :=
  match c.lastAttempt with
  | some t => now - t < reconnectInterval
  | none => false

/-- A failure with what was tried, as it is logged and answered. -/
def failure (tried reason : String) : ExportError × List LogEntry :=
  let text := tried ++ ": " ++ reason
  (.transport text, [⟨.error, logTarget, text⟩])

/-- The connection with a new wire, on which nothing has gone out. -/
def withNewWire (c : Connection) : Connection := { c with wires := c.wires ++ [[]] }

/-- Writes the handshake to a new wire. -/
def greet (c : Connection) (address : String) (o : WriteOutcome) :
    Connection × Except ExportError Nat × List LogEntry :=
  let wire := c.wires.length
  let c := c.withNewWire
  let connected : LogEntry := ⟨.debug, logTarget, "connected to " ++ address⟩
  match Wire.append [] (Wire.handshake c.fields) with
  | (_, .error reason) =>
    let (error, logs) := failure "failed to encode handshake" reason.message
    (c, .error error, connected :: logs)
  | (bytes, .ok ()) =>
    let c := c.sendOn wire (o.sent bytes)
    match o with
    | .complete => ({ c with current := some wire }, .ok wire, [connected])
    | .failed _ reason =>
      let (error, logs) := failure "failed to send handshake" reason.message
      (c, .error error, connected :: logs)

/-- Attempts to connect. -/
def connect (c : Connection) (now : Nat) (o : ConnectOutcome) :
    Connection × Except ExportError Nat × List LogEntry :=
  let c := { c with lastAttempt := some now, attempts := c.attempts ++ [now] }
  let failed (c : Connection) (f : ExportError × List LogEntry) :
      Connection × Except ExportError Nat × List LogEntry := (c, .error f.1, f.2)
  match o with
  | .unresolved reason => failed c (failure ("failed to resolve " ++ c.host) reason)
  | .noAddress =>
    let text := c.host ++ " did not resolve to any addresses"
    failed c (.transport text, [⟨.error, logTarget, text⟩])
  | .refused address reason => failed c (failure ("failed to connect to " ++ address) reason.message)
  | .unusable reason => failed c.withNewWire (failure "failed to configure stream" reason.message)
  | .opened address handshake => c.greet address handshake

/-- Writes bytes to a wire.  After a failed write it is given up. -/
def write (c : Connection) (wire : Nat) (bytes : List UInt8) (o : WriteOutcome) :
    Connection × ExportResult × List LogEntry :=
  let c := c.sendOn wire (o.sent bytes)
  match o with
  | .complete => (c, .ok (), [])
  | .failed _ reason =>
    ({ c with current := none }, .error (.transport reason.message),
      [⟨.error, logTarget, "failed to send payload: " ++ reason.describe⟩])

/-- Sends bytes, over a new wire if none is open.  One reading of the clock stands for two: the time of
the test whether it is too soon, and that of the attempt, which is taken right after it. -/
def send (c : Connection) (now : Nat) (connecting : ConnectOutcome) (writing : WriteOutcome)
    (bytes : List UInt8) : Connection × ExportResult × List LogEntry :=
  match c.current with
  | some wire => c.write wire bytes writing
  | none =>
    if c.isThrottled now then (c, .error notConnected, [])
    else
      match c.connect now connecting with
      | (c, .error error, logs) => (c, .error error, logs)
      | (c, .ok wire, logs) =>
        let (c, result, more) := c.write wire bytes writing
        (c, result, logs ++ more)

/-- Has nothing to send on. -/
def flush (c : Connection) : Connection × ExportResult := (c, .ok ())

/-- Closes the wire that is open. -/
def close (c : Connection) : Connection := { c with current := none }

/-! ## Tests -/

example : ((new "collector:4000" .empty).send 7 (.refused "[::1]:4000" .networkUnreachable) .complete [5]).2.1 =
    .error (.transport "failed to connect to [::1]:4000: Network is unreachable (os error 101)") := by rfl

end Connection

/-! ## Exporting -/

/-- An exporter that sends to a collector. -/
structure TcpExporter where
  /-- The way to the collector. -/
  connection : Connection
  /-- The frames of the last batch. -/
  buffer : List UInt8
deriving DecidableEq

namespace TcpExporter

/-- An exporter that has sent nothing. -/
def new (host : String) (fields : Wire.Handshake) : TcpExporter := ⟨.new host fields, []⟩

/-- What is logged about a record that has no frame. -/
def unencoded (error : Wire.EncodeError) : LogEntry :=
  ⟨.error, Connection.logTarget, "failed to encode record: " ++ error.describe⟩

/-- Sends the frames of a batch.  A record that has no frame is left out, and without any frame
nothing is done. -/
def deliver (e : TcpExporter) (now : Nat) (connecting : ConnectOutcome) (writing : WriteOutcome)
    (batch : List Wire.Message) : TcpExporter × ExportResult × List LogEntry :=
  let cleared := { e with buffer := [] }
  let (buffer, errors) := Wire.appendAll cleared.buffer (batch.map Wire.message)
  let filled := { cleared with buffer := buffer }
  let logs := errors.map unencoded
  if filled.buffer.isEmpty then (filled, .ok (), logs)
  else
    let (connection, result, more) := filled.connection.send now connecting writing filled.buffer
    ({ filled with connection := connection }, result, logs ++ more)

/-- Flushes the connection. -/
def flush (e : TcpExporter) : TcpExporter × ExportResult :=
  let (connection, result) := e.connection.flush
  ({ e with connection := connection }, result)

/-- Closes the connection. -/
def shutdown (e : TcpExporter) : TcpExporter × ExportResult :=
  ({ e with connection := e.connection.close }, .ok ())

end TcpExporter

end Telemetry
