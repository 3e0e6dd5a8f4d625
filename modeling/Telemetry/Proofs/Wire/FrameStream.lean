import Telemetry.Collector.Connection

/-!
# Streams of frames

Handshakes and messages are put into frames, one behind the other.  What stops one of them is a time
before the epoch (`beforeEpoch_mem_pieces`) or that it is too long, and then it leaves nothing in the
buffer.  All others are found in the buffer again by reading lengths (`payloads?_frames`).

An exporter sends the frames of one batch at a time.  Its buffer holds those of the batch before, but
what it sends does not depend on them (`deliver_eq`).
-/

namespace Telemetry

open Wire (Piece Message Handshake)

/-! ## Times before the epoch -/

namespace Wire

/-- The times that a point tells. -/
def pointTimes : Point → List Time
  | .sum s => [s.start, s.time]
  | .gauge g => [g.time]

/-- The times that a message tells. -/
def Message.times : Message → List Time
  | .span s => [s.start, s.finish]
  | .metric m => pointTimes m.point

@[simp] theorem beforeEpoch_not_mem_byte (b : Nat) : Piece.beforeEpoch ∉ byte b := by simp [byte]

@[simp] theorem beforeEpoch_not_mem_number (n : Nat) : Piece.beforeEpoch ∉ number n := by simp [number]

@[simp] theorem beforeEpoch_not_mem_text (s : String) : Piece.beforeEpoch ∉ text s := by simp [text]

@[simp] theorem beforeEpoch_mem_time {t : Time} : Piece.beforeEpoch ∈ time t ↔ t < 0 := by
  unfold time
  split <;> simp_all

theorem beforeEpoch_not_mem_optional {α : Type} {f : α → List Piece} (hf : ∀ a, .beforeEpoch ∉ f a)
    (o : Option α) : Piece.beforeEpoch ∉ optional f o := by
  cases o <;> simp [optional, hf]

theorem beforeEpoch_not_mem_several {α : Type} {f : α → List Piece} {as : List α}
    (hf : ∀ a ∈ as, .beforeEpoch ∉ f a) : Piece.beforeEpoch ∉ several f as := by
  rw [several, List.mem_append, List.mem_flatMap]
  rintro (h | ⟨a, ha, h⟩)
  · exact beforeEpoch_not_mem_number _ h
  · exact hf a ha h

mutual

theorem beforeEpoch_not_mem_value : ∀ v : Value, Piece.beforeEpoch ∉ value v
  | .bool _ | .i64 _ | .u64 _ | .f64 _ | .str _ => by simp [value, truth, signed]
  | .array vs => by simp [value, beforeEpoch_not_mem_values vs]
termination_by structural v => v

theorem beforeEpoch_not_mem_values : ∀ vs : List Value, Piece.beforeEpoch ∉ values vs
  | [] => by simp [values]
  | v :: vs => by simp [values, beforeEpoch_not_mem_value v, beforeEpoch_not_mem_values vs]
termination_by structural vs => vs

end

theorem beforeEpoch_not_mem_attributes (a : Attributes) : Piece.beforeEpoch ∉ attributes a :=
  beforeEpoch_not_mem_several fun _ _ => by simp [beforeEpoch_not_mem_value]

theorem beforeEpoch_not_mem_status (s : Status) : Piece.beforeEpoch ∉ status s := by
  cases s <;> simp [status]

theorem beforeEpoch_not_mem_measured (n : Number) : Piece.beforeEpoch ∉ measured n := by
  cases n <;> simp [measured, signed]

theorem beforeEpoch_mem_span {s : SpanRecord} :
    Piece.beforeEpoch ∈ span s ↔ s.start < 0 ∨ s.finish < 0 := by
  have hparent := beforeEpoch_not_mem_optional (f := spanId) (fun _ => beforeEpoch_not_mem_number _) s.parentId
  simp [span, traceId, spanId, flags, hparent, beforeEpoch_not_mem_attributes, beforeEpoch_not_mem_status]

theorem beforeEpoch_mem_point {p : Point} : Piece.beforeEpoch ∈ point p ↔ ∃ t ∈ pointTimes p, t < 0 := by
  cases p with
  | gauge g => simp [point, pointTimes, beforeEpoch_not_mem_measured]
  | sum s =>
    have htemporality : Piece.beforeEpoch ∉ temporality s.temporality := by
      cases s.temporality <;> simp [temporality]
    simp [point, pointTimes, truth, htemporality, beforeEpoch_not_mem_measured]

/-- The only thing that a message may tell and that has no written form is a time before the epoch. -/
theorem beforeEpoch_mem_message {m : Message} : Piece.beforeEpoch ∈ message m ↔ ∃ t ∈ m.times, t < 0 := by
  cases m with
  | span s => simp [message, beforeEpoch_mem_span, Message.times]
  | metric m => simp [message, metric, beforeEpoch_not_mem_attributes, beforeEpoch_mem_point, Message.times]

/-! ## Parcels -/

/-- What goes into one frame: a handshake or a message. -/
inductive Parcel where
  | handshake (handshake : Handshake)
  | message (message : Message)

namespace Parcel

def pieces : Parcel → List Piece
  | .handshake h => Wire.handshake h
  | .message m => Wire.message m

def times : Parcel → List Time
  | .handshake _ => []
  | .message m => m.times

/-- The bytes of its payload, however many they are. -/
def bytes? (p : Parcel) : Option (List UInt8) := plain p.pieces

/-- Its payload, if that fits into a frame. -/
def payload? (p : Parcel) : Option (List UInt8) := Wire.payload? p.pieces

theorem bytes?_eq_none_iff {p : Parcel} : p.bytes? = none ↔ ∃ t ∈ p.times, t < 0 := by
  rw [bytes?, plain_eq_none_iff]
  cases p with
  | message m => exact beforeEpoch_mem_message
  | handshake h =>
    have hno : Piece.beforeEpoch ∉ Wire.handshake h := beforeEpoch_not_mem_several fun _ _ => by simp
    simp [pieces, times, hno]

theorem payload?_eq_some_iff {p : Parcel} {payload : List UInt8} :
    p.payload? = some payload ↔ p.bytes? = some payload ∧ payload.length ≤ maxPayload := by
  rw [payload?, Wire.payload?_eq_some_iff, write_eq_ok_iff]
  rfl

/-- A parcel has no frame if it tells a time before the epoch, or if its payload is too long. -/
theorem payload?_eq_none_iff {p : Parcel} :
    p.payload? = none ↔ (∃ t ∈ p.times, t < 0) ∨ ∃ bytes, p.bytes? = some bytes ∧ maxPayload < bytes.length := by
  rw [← bytes?_eq_none_iff]
  cases h : p.bytes? with
  | none => simp [payload?, Wire.payload?, show plain p.pieces = none from h]
  | some bytes => simp [payload?, Wire.payload?, show plain p.pieces = some bytes from h]

/-- The payloads of those parcels that have a frame. -/
def payloads (parcels : List Parcel) : List (List UInt8) := parcels.filterMap payload?

/-- The frames of parcels, one behind the other. -/
def frames (parcels : List Parcel) : List UInt8 := (payloads parcels).flatMap framed

theorem frames_eq_nil_iff {parcels : List Parcel} : frames parcels = [] ↔ payloads parcels = [] := by
  rw [frames, List.flatMap_eq_nil_iff]
  constructor
  · intro h
    refine List.eq_nil_iff_forall_not_mem.mpr fun payload hp => ?_
    cases h payload hp
  · intro h payload hp
    rw [h] at hp
    cases hp

theorem appendAll_pieces (buffer : List UInt8) (parcels : List Parcel) :
    appendAll buffer (parcels.map pieces)
      = (buffer ++ frames parcels, parcels.filterMap fun p => refusal? p.pieces) := by
  rw [appendAll_eq, List.filterMap_map, List.filterMap_map]
  rfl

/-- Reading lengths splits a row of frames into their payloads, and nothing is left. -/
theorem payloads?_frames (parcels : List Parcel) : payloads? (frames parcels) = some (payloads parcels) := by
  refine payloads?_flatMap_framed fun payload hp => ?_
  obtain ⟨p, -, h⟩ := List.mem_filterMap.mp hp
  exact length_le_of_payload? h

end Parcel

end Wire

/-! ## Batches -/

open Wire (Parcel)

/-- What an export sends, answers and logs, whatever the buffer holds of earlier batches. -/
theorem TcpExporter.deliver_eq (e : TcpExporter) (now : Nat) (connecting : ConnectOutcome)
    (writing : WriteOutcome) (batch : List Message) :
    e.deliver now connecting writing batch =
      let frames := Parcel.frames (batch.map .message)
      let logs := (batch.filterMap fun m => Wire.refusal? (Wire.message m)).map unencoded
      if Parcel.payloads (batch.map .message) = [] then (⟨e.connection, []⟩, .ok (), logs)
      else
        let (connection, result, more) := e.connection.send now connecting writing frames
        (⟨connection, frames⟩, result, logs ++ more) := by
  have hpieces : batch.map Wire.message = (batch.map .message).map Parcel.pieces := by
    rw [List.map_map]
    rfl
  have hlogs : ((batch.map .message).filterMap fun p => Wire.refusal? (Parcel.pieces p)) =
      batch.filterMap fun m => Wire.refusal? (Wire.message m) := by
    rw [List.filterMap_map]
    rfl
  simp only [deliver, hpieces, Parcel.appendAll_pieces, List.nil_append, List.isEmpty_iff,
    Parcel.frames_eq_nil_iff, hlogs]
  split
  next hnone => rw [Parcel.frames_eq_nil_iff.mpr hnone]
  next => rfl

/-- A parcel that can be encoded adds its frame to any buffer, and one that cannot leaves the buffer as
it was.  What parcels add to a buffer is split into the payloads of those that can be encoded, in
order.  An exporter sends just these frames of a batch, and without any it touches no connection. -/
theorem Wire.frame_stream_round_trip (buffer : List UInt8) (parcels : List Parcel) :
    (∀ p : Parcel,
      (∃ payload, p.bytes? = some payload ∧ payload.length ≤ 65535 ∧
        append buffer p.pieces = (buffer ++ (bigEndian 2 payload.length ++ payload), .ok ())) ∨
      ((∃ t ∈ p.times, t < 0) ∨ ∃ payload, p.bytes? = some payload ∧ 65535 < payload.length) ∧
        ∃ reason, append buffer p.pieces = (buffer, .error reason)) ∧
    (∃ added, (appendAll buffer (parcels.map Parcel.pieces)).1 = buffer ++ added ∧
      added = (Parcel.payloads parcels).flatMap framed ∧ payloads? added = some (Parcel.payloads parcels)) ∧
    ∀ (e : TcpExporter) (now : Nat) (connecting : ConnectOutcome) (writing : WriteOutcome)
      (batch : List Message), ∃ logs, e.deliver now connecting writing batch =
        if Parcel.payloads (batch.map .message) = [] then (⟨e.connection, []⟩, .ok (), logs)
        else
          let frames := (Parcel.payloads (batch.map .message)).flatMap framed
          let (connection, result, more) := e.connection.send now connecting writing frames
          (⟨connection, frames⟩, result, logs ++ more) := by
  refine ⟨fun p => ?_, ⟨Parcel.frames parcels, ?_, rfl, Parcel.payloads?_frames parcels⟩, ?_⟩
  · obtain ⟨payload, hp, ha⟩ | ⟨reason, hp, -, ha⟩ := append_eq buffer p.pieces
    · obtain ⟨hbytes, hfits⟩ := Parcel.payload?_eq_some_iff.mp hp
      exact .inl ⟨payload, hbytes, hfits, ha⟩
    · exact .inr ⟨Parcel.payload?_eq_none_iff.mp hp, reason, ha⟩
  · rw [Parcel.appendAll_pieces]
  · intro e now connecting writing batch
    exact ⟨_, e.deliver_eq now connecting writing batch⟩

end Telemetry
