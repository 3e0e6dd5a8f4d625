import Telemetry.Text.Utf8
import Telemetry.Wire.Varint

/-!
# Payloads in pieces

A payload is written piece by piece, and two things can stop it: the pieces so far are more than a
frame holds, or the next piece is a time before the epoch, which has no written form.  `write` tells
which of the two came first, and what had been written by then.

Whether a payload can be written does not depend on the way it is done: `plain` are its bytes, if it
has any, and `write_eq_ok_iff` says that it is written exactly when they fit.
-/

namespace Telemetry.Wire

/-- A part of a payload. -/
inductive Piece where
  /-- Bytes. -/
  | bytes (bs : List UInt8)
  /-- A time before the epoch. -/
  | beforeEpoch
deriving DecidableEq, Repr

/-- Why a payload cannot be written. -/
inductive EncodeError where
  /-- It is longer than a frame may be. -/
  | sizeLimit
  /-- It holds a time before the epoch. -/
  | beforeEpoch
deriving DecidableEq, Repr

namespace EncodeError

/-- What is said about a time before the epoch. -/
def epochText : String := "SystemTime must be later than UNIX_EPOCH"

/-- What an error says. -/
def message : EncodeError → String
  | .sizeLimit => "the size limit has been reached"
  | .beforeEpoch => epochText

/-- An error as descriptions show it. -/
def describe : EncodeError → String
  | .sizeLimit => "SizeLimit"
  | .beforeEpoch => "Custom(\"" ++ epochText ++ "\")"

end EncodeError

/-- Writes pieces into so much room.  Gives the bytes that were written and, if not all of them were,
the reason. -/
def write : Nat → List Piece → List UInt8 × Except EncodeError Unit
  | _, [] => ([], .ok ())
  | _, .beforeEpoch :: _ => ([], .error .beforeEpoch)
  | room, .bytes bs :: rest =>
    if bs.length ≤ room then
      let (written, result) := write (room - bs.length) rest
      (bs ++ written, result)
    else ([], .error .sizeLimit)
termination_by structural _ pieces => pieces

/-! ## Pieces of plain data -/

/-- One byte. -/
def byte (b : Nat) : List Piece := [.bytes [UInt8.ofNat b]]

/-- A truth value. -/
def truth (b : Bool) : List Piece := byte (if b then 1 else 0)

/-- A number of variable length. -/
def number (n : Nat) : List Piece := [.bytes (varint n)]

/-- A signed number of variable length. -/
def signed (n : Int) : List Piece := number (zigzag n)

/-- A text: the number of its bytes, and its bytes. -/
def text (s : String) : List Piece :=
  let bs := Text.encodeUtf8 s.toList
  [.bytes (varint bs.length), .bytes bs]

/-- Something that may be missing. -/
def optional {α : Type} (f : α → List Piece) : Option α → List Piece
  | none => byte 0
  | some a => byte 1 ++ f a

/-- Several things: how many, and each of them. -/
def several {α : Type} (f : α → List Piece) (as : List α) : List Piece := number as.length ++ as.flatMap f

/-- A time: seconds since the epoch and nanoseconds. -/
def time (t : Int) : List Piece :=
  if t < 0 then [.beforeEpoch] else number (t.toNat / 1000000000) ++ number (t.toNat % 1000000000)

/-! ## Laws -/

/-- The bytes of pieces, if none of them stops the writing. -/
def plain : List Piece → Option (List UInt8)
  | [] => some []
  | .beforeEpoch :: _ => none
  | .bytes bs :: rest => (plain rest).map (bs ++ ·)
termination_by structural pieces => pieces

theorem plain_append (xs ys : List Piece) :
    plain (xs ++ ys) = (plain xs).bind fun front => (plain ys).map (front ++ ·) := by
  induction xs with
  | nil => simp [plain]
  | cons p rest ih =>
    cases p with
    | beforeEpoch => rfl
    | bytes bs =>
      rw [List.cons_append, plain, plain, ih]
      cases plain rest <;> cases plain ys <;> simp

/-- Pieces have no bytes exactly when one of them is a time before the epoch. -/
theorem plain_eq_none_iff {pieces : List Piece} : plain pieces = none ↔ .beforeEpoch ∈ pieces := by
  induction pieces with
  | nil => simp [plain]
  | cons p rest ih => cases p <;> simp [plain, ih]

/-- What is written is all of it exactly when nothing stops the writing and it fits. -/
theorem write_eq_ok_iff {room : Nat} {pieces : List Piece} {bs : List UInt8} :
    write room pieces = (bs, .ok ()) ↔ plain pieces = some bs ∧ bs.length ≤ room := by
  induction pieces generalizing room bs with
  | nil =>
    constructor
    · intro h
      cases h
      exact ⟨rfl, Nat.zero_le _⟩
    · rintro ⟨h, -⟩
      cases h
      rfl
  | cons p rest ih =>
    cases p with
    | beforeEpoch => simp [write, plain]
    | bytes cs =>
      by_cases hc : cs.length ≤ room
      · cases hw : write (room - cs.length) rest with
        | mk written result =>
          simp only [write, if_pos hc, hw, plain, Option.map_eq_some_iff, Prod.mk.injEq]
          constructor
          · rintro ⟨rfl, rfl⟩
            obtain ⟨hp, hl⟩ := ih.mp hw
            exact ⟨⟨written, hp, rfl⟩, by rw [List.length_append]; omega⟩
          · rintro ⟨⟨ds, hd, rfl⟩, hl⟩
            rw [List.length_append] at hl
            have hok : write (room - cs.length) rest = (ds, .ok ()) := ih.mpr ⟨hd, by omega⟩
            rw [hw, Prod.mk.injEq] at hok
            exact ⟨by rw [hok.1], hok.2⟩
      · simp only [write, if_neg hc, plain, Option.map_eq_some_iff, Prod.mk.injEq, reduceCtorEq, and_false,
          false_iff, not_and, Nat.not_le]
        rintro ⟨ds, -, rfl⟩
        rw [List.length_append]
        omega

/-! ## Tests -/

example : write 3 [.bytes [1, 2], .bytes [3]] = ([1, 2, 3], .ok ()) := by rfl
example : write 2 [.bytes [1, 2], .bytes [3], .beforeEpoch] = ([1, 2], .error .sizeLimit) := by rfl
example : write 3 [.bytes [1, 2], .beforeEpoch, .bytes [3, 4]] = ([1, 2], .error .beforeEpoch) := by rfl
example : time 2000000005 = [.bytes [2], .bytes [5]] ∧ time (-1) = [.beforeEpoch] := by decide

end Telemetry.Wire
