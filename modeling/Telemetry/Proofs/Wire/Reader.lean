import Telemetry.Wire.Frame

/-!
# Reading plain data

A payload holds nothing that tells where one thing ends and the next begins, so reading must find this
out from the bytes.  A `Reader` takes something off the front of a row of bytes, and `Reads` says that it
takes off just the bytes of some pieces, whatever comes behind them.  This is closed under putting one
behind the other (`Reads.bind`), which is how whole records are read.

Numbers are read back as long as 128 bits hold them.  How many things or bytes follow is such a number in
any payload that fits into a frame, since each thing takes a byte at least.
-/

namespace Telemetry.Wire

/-- What takes something off the front of bytes, if it is there. -/
abbrev Reader := StateT (List UInt8) Option

/-- Whether a reader takes off just the bytes of some pieces and makes something of them. -/
def Reads {α : Type} (r : Reader α) (pieces : List Piece) (a : α) : Prop :=
  ∀ bytes rest, plain pieces = some bytes → bytes.length ≤ maxPayload → r (bytes ++ rest) = some (a, rest)

/-! ## One behind the other -/

namespace Reads

variable {α β : Type} {r : Reader α} {s : α → Reader β} {xs ys : List Piece} {a : α} {b : β}

theorem bind (hr : Reads r xs a) (hs : Reads (s a) ys b) : Reads (r >>= s) (xs ++ ys) b := by
  intro bytes rest hp hl
  rw [plain_append, Option.bind_eq_some_iff] at hp
  obtain ⟨front, hfront, hp⟩ := hp
  obtain ⟨back, hback, rfl⟩ := Option.map_eq_some_iff.mp hp
  rw [List.length_append] at hl
  have hr := hr front (back ++ rest) hfront (by omega)
  have hs := hs back rest hback (by omega)
  show (r (front ++ back ++ rest)).bind (fun x => s x.1 x.2) = some (b, rest)
  rw [List.append_assoc, hr]
  exact hs

theorem pure (a : α) : Reads (Pure.pure a) [] a := by
  intro bytes rest hp _
  cases hp
  rfl

/-- What is made of a thing that was read. -/
theorem into (hr : Reads r xs a) (hs : Reads (s a) [] b) : Reads (r >>= s) xs b := by
  rw [← List.append_nil xs]
  exact hr.bind hs

theorem of_plain_eq (ys : List Piece) (h : plain xs = plain ys) (hr : Reads r ys a) : Reads r xs a := by
  intro bytes rest hp hl
  exact hr bytes rest (h ▸ hp) hl

/-- A payload is read back, whatever comes behind it. -/
theorem of_payload? (hr : Reads r xs a) {payload : List UInt8} (h : payload? xs = some payload)
    (rest : List UInt8) : r (payload ++ rest) = some (a, rest) := by
  obtain ⟨hp, hl⟩ := write_eq_ok_iff.mp (payload?_eq_some_iff.mp h)
  exact hr payload rest hp hl

/-- Only the pieces that have bytes, and few enough of them, need to be read. -/
theorem of_fits (h : ∀ bytes, plain xs = some bytes → bytes.length ≤ maxPayload → Reads r xs a) :
    Reads r xs a := by
  intro bytes rest hp hl
  exact h bytes hp hl bytes rest hp hl

end Reads

/-! ## Bytes and numbers -/

/-- Takes off so many bytes. -/
def takeBytes (n : Nat) : Reader (List UInt8) := fun bytes =>
  if n ≤ bytes.length then some (bytes.take n, bytes.drop n) else none

theorem reads_bytes (bs : List UInt8) : Reads (takeBytes bs.length) [.bytes bs] bs := by
  intro bytes rest hp _
  have hp : bs ++ [] = bytes := by simpa [plain] using hp
  subst hp
  rw [List.append_nil, takeBytes, if_pos (by simp), List.take_left, List.drop_left]

/-- Reads a number of fixed length. -/
def readFixed (width : Nat) : Reader Nat := do return readBigEndian (← takeBytes width)

theorem reads_fixed {width n : Nat} (h : n < Nat.pow 256 width) :
    Reads (readFixed width) [.bytes (bigEndian width n)] n := by
  have hbytes := reads_bytes (bigEndian width n)
  rw [length_bigEndian] at hbytes
  refine hbytes.into ?_
  rw [readBigEndian_bigEndian h]
  exact .pure n

/-- Reads one byte. -/
def readByte : Reader Nat := readFixed 1

theorem reads_byte {n : Nat} (h : n < 256) : Reads readByte (byte n) n := reads_fixed h

/-- Reads a truth value. -/
def readTruth : Reader Bool := do
  match ← readByte with
  | 0 => return false
  | 1 => return true
  | _ => failure

theorem reads_truth (b : Bool) : Reads readTruth (truth b) b := by
  cases b with
  | false => exact (reads_byte (n := 0) (by decide)).into (.pure false)
  | true => exact (reads_byte (n := 1) (by decide)).into (.pure true)

/-- The number of bytes that a marker announces. -/
def announced? : Nat → Option Nat
  | 251 => some 2
  | 252 => some 4
  | 253 => some 8
  | 254 => some 16
  | _ => none

/-- Reads a number of variable length. -/
def readNumber : Reader Nat := do
  let marker ← readByte
  if marker < 251 then return marker
  match announced? marker with
  | some width => readFixed width
  | none => failure

theorem reads_announced (marker : Nat) {width n : Nat} (hm : 251 ≤ marker ∧ marker < 255)
    (hw : announced? marker = some width) (h : n < Nat.pow 256 width) :
    Reads readNumber [.bytes (UInt8.ofNat marker :: bigEndian width n)] n := by
  refine .of_plain_eq (byte marker ++ [.bytes (bigEndian width n)]) rfl ?_
  refine (reads_byte (by omega)).bind ?_
  rw [if_neg (by omega)]
  simp only [hw]
  exact reads_fixed h

theorem reads_number {n : Nat} (h : n < Nat.pow 256 16) : Reads readNumber (number n) n := by
  unfold number varint
  split
  next hone =>
    refine (reads_byte (by omega)).into ?_
    rw [if_pos hone]
    exact .pure n
  next =>
    split
    next hn => exact reads_announced 251 (by decide) rfl hn
    next =>
      split
      next hn => exact reads_announced 252 (by decide) rfl hn
      next =>
        split
        next hn => exact reads_announced 253 (by decide) rfl hn
        next => exact reads_announced 254 (by decide) rfl h

/-- The signed number that was folded into an unsigned one. -/
def unzigzag (n : Nat) : Int := if n % 2 = 0 then ((n / 2 : Nat) : Int) else -((n / 2 + 1 : Nat) : Int)

theorem unzigzag_zigzag (n : Int) : unzigzag (zigzag n) = n := by
  unfold zigzag unzigzag
  split <;> split <;> omega

theorem zigzag_lt {n : Int} (hlow : -9223372036854775808 ≤ n) (hhigh : n < 9223372036854775808) :
    zigzag n < UInt64.size := by
  simp only [zigzag, UInt64.size]
  split <;> omega

/-- Reads a signed number of variable length. -/
def readSigned : Reader Int := do return unzigzag (← readNumber)

theorem reads_signed (n : Int64) : Reads readSigned (signed n.toInt) n.toInt := by
  have hlt : zigzag n.toInt < UInt64.size := zigzag_lt n.le_toInt n.toInt_lt
  refine (reads_number (Nat.lt_trans hlt (by decide))).into ?_
  rw [unzigzag_zigzag]
  exact .pure _

/-! ## Texts -/

/-- Reads a text. -/
def readText : Reader String := do
  let bytes ← takeBytes (← readNumber)
  return String.ofList (Text.decodeLossy bytes)

/-- What fits into a frame can be counted. -/
theorem lt_of_fits {n size : Nat} (hn : n ≤ size) (hs : size ≤ maxPayload) : n < Nat.pow 256 16 :=
  Nat.lt_of_le_of_lt (Nat.le_trans hn hs) (by decide)

theorem reads_text (s : String) : Reads readText (text s) s := by
  refine .of_fits fun bytes hp hl => ?_
  have hbytes : varint (Text.encodeUtf8 s.toList).length ++ (Text.encodeUtf8 s.toList ++ []) = bytes := by
    simpa [text, plain] using hp
  have hsize : (Text.encodeUtf8 s.toList).length ≤ bytes.length := by
    rw [← hbytes, List.append_nil, List.length_append]
    omega
  refine (reads_number (lt_of_fits hsize hl)).bind ((reads_bytes _).into ?_)
  rw [Text.decodeLossy_encodeUtf8, String.ofList_toList]
  exact .pure s

/-! ## Times -/

/-- Reads a time. -/
def readTime : Reader Int := do
  let seconds ← readNumber
  let nanoseconds ← readNumber
  return ((seconds * 1000000000 + nanoseconds : Nat) : Int)

/-- A time is read back when the seconds since the epoch are a number of 64 bits. -/
theorem reads_time {t : Int} (h : t.toNat / 1000000000 < UInt64.size) : Reads readTime (time t) t := by
  unfold time
  split
  next =>
    intro bytes rest hp
    cases hp
  next hepoch =>
    have hnano : t.toNat % 1000000000 < UInt64.size :=
      Nat.lt_trans (Nat.mod_lt _ (by decide)) (by decide)
    have htime : ((t.toNat / 1000000000 * 1000000000 + t.toNat % 1000000000 : Nat) : Int) = t := by
      rw [Nat.div_add_mod']
      omega
    refine (reads_number (Nat.lt_trans h (by decide))).bind ?_
    refine (reads_number (Nat.lt_trans hnano (by decide))).into ?_
    rw [htime]
    exact .pure t

/-! ## Something that may be missing, and several things -/

section

variable {α : Type} {r : Reader α} {f : α → List Piece}

/-- Reads something that may be missing. -/
def readOptional (r : Reader α) : Reader (Option α) := do
  match ← readByte with
  | 0 => return none
  | 1 => return some (← r)
  | _ => failure

theorem reads_optional (h : ∀ a, Reads r (f a) a) (o : Option α) :
    Reads (readOptional r) (optional f o) o := by
  cases o with
  | none => exact (reads_byte (n := 0) (by decide)).into (.pure none)
  | some a => exact (reads_byte (n := 1) (by decide)).bind ((h a).into (.pure (some a)))

/-- Reads so many things. -/
def readMany (r : Reader α) : Nat → Reader (List α)
  | 0 => return []
  | n + 1 => do
    let first ← r
    return first :: (← readMany r n)
termination_by structural n => n

theorem reads_many {as : List α} (h : ∀ a ∈ as, Reads r (f a) a) :
    Reads (readMany r as.length) (as.flatMap f) as := by
  induction as with
  | nil => exact .pure []
  | cons a as ih =>
    have hrest := ih fun b hb => h b (List.mem_cons_of_mem a hb)
    exact (h a List.mem_cons_self).bind (hrest.into (.pure (a :: as)))

/-- Things that take a byte each are no more than their bytes. -/
theorem length_le_of_plain_flatMap {as : List α} (hne : ∀ a ∈ as, plain (f a) ≠ some [])
    {bytes : List UInt8} (hp : plain (as.flatMap f) = some bytes) : as.length ≤ bytes.length := by
  induction as generalizing bytes with
  | nil => exact Nat.zero_le _
  | cons a as ih =>
    rw [List.flatMap_cons, plain_append, Option.bind_eq_some_iff] at hp
    obtain ⟨front, hfront, hp⟩ := hp
    obtain ⟨back, hback, rfl⟩ := Option.map_eq_some_iff.mp hp
    have hpos : front ≠ [] := by
      rintro rfl
      exact hne a List.mem_cons_self hfront
    have hrest := ih (fun b hb => hne b (List.mem_cons_of_mem a hb)) hback
    have := List.length_pos_iff.mpr hpos
    rw [List.length_append, List.length_cons]
    omega

/-- Reads several things. -/
def readSeveral (r : Reader α) : Reader (List α) := do readMany r (← readNumber)

theorem reads_several {as : List α} (hne : ∀ a ∈ as, plain (f a) ≠ some [])
    (h : ∀ a ∈ as, Reads r (f a) a) : Reads (readSeveral r) (several f as) as := by
  refine .of_fits fun bytes hp hl => ?_
  rw [several, plain_append, Option.bind_eq_some_iff] at hp
  obtain ⟨front, -, hp⟩ := hp
  obtain ⟨back, hback, rfl⟩ := Option.map_eq_some_iff.mp hp
  have hcount := length_le_of_plain_flatMap hne hback
  rw [List.length_append] at hl
  exact (reads_number (lt_of_fits hcount (by omega))).bind (reads_many h)

end

end Telemetry.Wire
