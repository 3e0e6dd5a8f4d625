import Telemetry.Wire.Piece

/-!
# Frames

A payload travels as a frame: its length in two bytes, and then its bytes.  No payload is longer
than two bytes can tell.

How long a payload is shows only when it has been written.  So `append` keeps two bytes free behind
what a buffer holds, writes the payload and fills in its length.  A payload that is too long, or that
cannot be written at all, may be written in part by then, and the buffer is cut back to what it held.
So a buffer grows by a whole frame or by nothing (`append_eq`), what is put into it is a row of whole
frames at any time, and their payloads are read back (`payloads?_flatMap_framed`).
-/

namespace Telemetry.Wire

/-- The most bytes of a payload. -/
def maxPayload : Nat := 65535

/-! ## Writing -/

/-- Some bytes with others written over them from a place on. -/
def overwrite (bytes : List UInt8) (start : Nat) (written : List UInt8) : List UInt8 :=
  bytes.take start ++ written ++ bytes.drop (start + written.length)

/-- Puts the frame of a payload behind what a buffer holds, or leaves the buffer as it was and gives
the reason. -/
def append (buffer : List UInt8) (pieces : List Piece) : List UInt8 × Except EncodeError Unit :=
  let start := buffer.length
  let reserved := buffer ++ [0, 0]
  let (written, result) := write maxPayload pieces
  let grown := reserved ++ written
  match result with
  | .ok () => (overwrite grown start (bigEndian 2 (grown.length - start - 2)), .ok ())
  | .error e => (grown.take start, .error e)

/-- Puts the frames of several payloads behind what a buffer holds.  Gives the reasons for those that
are left out. -/
def appendAll (buffer : List UInt8) : List (List Piece) → List UInt8 × List EncodeError
  | [] => (buffer, [])
  | pieces :: rest =>
    match append buffer pieces with
    | (buffer, .ok ()) => appendAll buffer rest
    | (buffer, .error e) => let (buffer, errors) := appendAll buffer rest; (buffer, e :: errors)
termination_by structural payloads => payloads

/-! ## Reading -/

/-- The payloads of a row of frames, if it is a row of whole frames. -/
def payloads? : List UInt8 → Option (List (List UInt8))
  | [] => some []
  | [_] => none
  | high :: low :: rest =>
    let length := readBigEndian [high, low]
    if length ≤ rest.length then (payloads? (rest.drop length)).map (rest.take length :: ·) else none
termination_by bytes => bytes.length
decreasing_by
  rw [List.length_drop, List.length_cons, List.length_cons]
  omega

/-! ## Laws -/

/-- The frame of a payload. -/
def framed (payload : List UInt8) : List UInt8 := bigEndian 2 payload.length ++ payload

/-- The payload that the frame of some pieces has, if they have a frame. -/
def payload? (pieces : List Piece) : Option (List UInt8) :=
  (plain pieces).filter (·.length ≤ maxPayload)

/-- The reason that some pieces have no frame, if they have none. -/
def refusal? (pieces : List Piece) : Option EncodeError :=
  match (write maxPayload pieces).2 with
  | .ok () => none
  | .error e => some e

theorem payload?_eq_some_iff {pieces : List Piece} {payload : List UInt8} :
    payload? pieces = some payload ↔ write maxPayload pieces = (payload, .ok ()) := by
  rw [payload?, Option.filter_eq_some_iff, write_eq_ok_iff, decide_eq_true_eq]

theorem length_le_of_payload? {pieces : List Piece} {payload : List UInt8}
    (h : payload? pieces = some payload) : payload.length ≤ maxPayload :=
  (write_eq_ok_iff.mp (payload?_eq_some_iff.mp h)).2

theorem payload?_eq_none_iff {pieces : List Piece} :
    payload? pieces = none ↔ ∃ e, refusal? pieces = some e := by
  cases hw : write maxPayload pieces with
  | mk written result =>
    cases result with
    | ok =>
      have hp : payload? pieces = some written := payload?_eq_some_iff.mpr hw
      simp [hp, refusal?, hw]
    | error e =>
      have hp : payload? pieces = none := by
        refine Option.eq_none_iff_forall_ne_some.mpr fun payload h => ?_
        rw [payload?_eq_some_iff, hw] at h
        cases h
      simp [hp, refusal?, hw]

/-- Bytes are filled in where room was left for them. -/
theorem overwrite_append (buffer room payload written : List UInt8) (h : room.length = written.length) :
    overwrite (buffer ++ room ++ payload) buffer.length written = buffer ++ (written ++ payload) := by
  have htake : (buffer ++ room ++ payload).take buffer.length = buffer := by
    rw [List.append_assoc, List.take_left]
  have hdrop : (buffer ++ room ++ payload).drop (buffer.length + written.length) = payload := by
    rw [← h, ← List.length_append, List.drop_left]
  rw [overwrite, htake, hdrop, List.append_assoc]

theorem append_of_payload? (buffer : List UInt8) {pieces : List Piece} {payload : List UInt8}
    (h : payload? pieces = some payload) : append buffer pieces = (buffer ++ framed payload, .ok ()) := by
  have hsize : (buffer ++ [0, 0] ++ payload).length - buffer.length - 2 = payload.length := by
    simp only [List.length_append, List.length_cons, List.length_nil]
    omega
  have hroom : ([0, 0] : List UInt8).length = (bigEndian 2 payload.length).length :=
    (length_bigEndian 2 _).symm
  simp only [append, payload?_eq_some_iff.mp h, hsize]
  rw [overwrite_append buffer [0, 0] payload _ hroom, framed]

theorem append_of_refusal? (buffer : List UInt8) {pieces : List Piece} {e : EncodeError}
    (h : refusal? pieces = some e) : append buffer pieces = (buffer, .error e) := by
  unfold refusal? at h
  cases hw : write maxPayload pieces with
  | mk written result =>
    rw [hw] at h
    cases result with
    | ok => cases h
    | error =>
      cases h
      simp only [append, hw, List.append_assoc, List.take_left]

/-- A buffer grows by a whole frame or not at all. -/
theorem append_eq (buffer : List UInt8) (pieces : List Piece) :
    (∃ payload, payload? pieces = some payload ∧
      append buffer pieces = (buffer ++ framed payload, .ok ())) ∨
    (∃ e, payload? pieces = none ∧ refusal? pieces = some e ∧
      append buffer pieces = (buffer, .error e)) := by
  cases h : payload? pieces with
  | some payload => exact .inl ⟨payload, rfl, append_of_payload? buffer h⟩
  | none =>
    obtain ⟨e, he⟩ := payload?_eq_none_iff.mp h
    exact .inr ⟨e, rfl, he, append_of_refusal? buffer he⟩

/-- What is in the buffer when nothing was refused. -/
theorem payload?_of_append {buffer grown : List UInt8} {pieces : List Piece}
    (h : append buffer pieces = (grown, .ok ())) :
    ∃ payload, payload? pieces = some payload ∧ grown = buffer ++ framed payload := by
  obtain ⟨payload, hp, ha⟩ | ⟨e, -, -, ha⟩ := append_eq buffer pieces
  · rw [h, Prod.mk.injEq] at ha
    exact ⟨payload, hp, ha.1⟩
  · rw [h] at ha
    cases ha

/-- What is put into a buffer are the frames of those payloads that have one, in order. -/
theorem appendAll_eq (buffer : List UInt8) (payloads : List (List Piece)) :
    appendAll buffer payloads
      = (buffer ++ (payloads.filterMap payload?).flatMap framed, payloads.filterMap refusal?) := by
  induction payloads generalizing buffer with
  | nil => simp [appendAll]
  | cons pieces rest ih =>
    obtain ⟨payload, hp, ha⟩ | ⟨e, hp, he, ha⟩ := append_eq buffer pieces
    · have he : refusal? pieces = none := by
        refine Option.eq_none_iff_forall_ne_some.mpr fun e he => ?_
        have hno := payload?_eq_none_iff.mpr ⟨e, he⟩
        rw [hp] at hno
        cases hno
      rw [appendAll, ha, List.filterMap_cons_some hp, List.filterMap_cons_none he, List.flatMap_cons,
        ← List.append_assoc]
      exact ih _
    · rw [appendAll, ha, List.filterMap_cons_none hp, List.filterMap_cons_some he]
      simp only [ih buffer]

/-- A frame is read back, with whatever comes after it. -/
theorem payloads?_framed_append {payload : List UInt8} (h : payload.length ≤ maxPayload)
    (rest : List UInt8) : payloads? (framed payload ++ rest) = (payloads? rest).map (payload :: ·) := by
  obtain ⟨high, low, hlength⟩ : ∃ high low, bigEndian 2 payload.length = [high, low] :=
    ⟨_, _, rfl⟩
  have hread : readBigEndian [high, low] = payload.length := by
    rw [← hlength]
    exact readBigEndian_bigEndian (Nat.lt_of_le_of_lt h (by decide))
  have hfits : payload.length ≤ (payload ++ rest).length := by
    rw [List.length_append]
    exact Nat.le_add_right _ _
  rw [framed, hlength, List.append_assoc, List.cons_append, List.cons_append, List.nil_append, payloads?]
  simp only [hread, if_pos hfits, List.drop_left, List.take_left]

/-- A row of frames is read back. -/
theorem payloads?_flatMap_framed {payloads : List (List UInt8)}
    (h : ∀ payload ∈ payloads, payload.length ≤ maxPayload) :
    payloads? (payloads.flatMap framed) = some payloads := by
  induction payloads with
  | nil => rw [List.flatMap_nil, payloads?]
  | cons payload rest ih =>
    rw [List.flatMap_cons, payloads?_framed_append (h payload List.mem_cons_self),
      ih fun p hp => h p (List.mem_cons_of_mem _ hp), Option.map_some]

/-! ## Tests -/

example : append [7] [.bytes [1, 2, 3]] = ([7, 0, 3, 1, 2, 3], .ok ()) := by rfl
example : append [7] [.bytes [1], .beforeEpoch] = ([7], .error .beforeEpoch) := by rfl
example : payloads? [0, 2, 8, 9, 0, 0] = some [[8, 9], []] ∧ payloads? [0, 2, 8] = none := by cbv

end Telemetry.Wire
