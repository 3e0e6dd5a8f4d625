/-!
# Reading UTF-8

Percent escapes may spell any bytes, so what they spell need not be UTF-8.  `decodeLossy` reads
bytes as far as they are UTF-8 and puts one replacement character for each maximal run of bytes
that starts a character and cannot be continued, and for each byte that starts none.

The reader goes byte by byte.  Between bytes it is either between characters or inside one, and
then a `Pending` says how many bytes are still owed, what the bytes so far are worth, and in which
range the next byte must lie.  The range is narrower than that of all continuation bytes right
after the leads `E0`, `ED`, `F0` and `F4`: this is what refuses overlong forms, surrogates and
code points above the last one.
-/

namespace Telemetry.Text

/-! ## Characters in progress -/

/-- A character of which the first byte, at least, has been read and the last one has not. -/
structure Pending where
  /-- The bytes still to come. -/
  owed : Nat
  /-- The code point bits of the bytes read so far. -/
  code : Nat
  /-- The least value of the next byte. -/
  low : Nat
  /-- The greatest value of the next byte. -/
  high : Nat
deriving DecidableEq, Repr

/-- What a byte starts that is not ASCII, if it starts anything. -/
def Pending.start? (b : Nat) : Option Pending :=
  if 0xC2 ≤ b ∧ b ≤ 0xDF then some ⟨1, b - 0xC0, 0x80, 0xBF⟩
  else if b = 0xE0 then some ⟨2, 0, 0xA0, 0xBF⟩
  else if b = 0xED then some ⟨2, 0xD, 0x80, 0x9F⟩
  else if 0xE1 ≤ b ∧ b ≤ 0xEF then some ⟨2, b - 0xE0, 0x80, 0xBF⟩
  else if b = 0xF0 then some ⟨3, 0, 0x90, 0xBF⟩
  else if 0xF1 ≤ b ∧ b ≤ 0xF3 then some ⟨3, b - 0xF0, 0x80, 0xBF⟩
  else if b = 0xF4 then some ⟨3, 4, 0x80, 0x8F⟩
  else none

/-! ## The reader -/

/-- The character that stands for bytes that are not UTF-8. -/
def replacement : Char := '\ufffd'

/-- A byte read between characters: what it finishes and what it leaves in progress. -/
def readLead (b : Nat) : List Char × Option Pending :=
  if b < 0x80 then ([Char.ofNat b], none)
  else match Pending.start? b with
    | some p => ([], some p)
    | none => ([replacement], none)

/-- One byte, read where the bytes before it have led. -/
def readByte : Option Pending → Nat → List Char × Option Pending
  | none, b => readLead b
  | some p, b =>
    if p.low ≤ b ∧ b ≤ p.high then
      let code := p.code * 64 + (b - 0x80)
      if p.owed = 1 then ([Char.ofNat code], none)
      else ([], some ⟨p.owed - 1, code, 0x80, 0xBF⟩)
    else
      let (cs, next) := readLead b
      (replacement :: cs, next)

/-- The characters of a row of bytes, from a given point on. -/
def decodeFrom : Option Pending → List UInt8 → List Char
  | none, [] => []
  | some _, [] => [replacement]
  | p, b :: bs => (readByte p b.toNat).1 ++ decodeFrom (readByte p b.toNat).2 bs
termination_by structural _ bs => bs

/-- The characters of a row of bytes, with replacements for what is not UTF-8. -/
def decodeLossy (bs : List UInt8) : List Char := decodeFrom none bs

/-- The UTF-8 bytes of a row of characters. -/
def encodeUtf8 (cs : List Char) : List UInt8 := cs.flatMap String.utf8EncodeChar

/-- The number of UTF-8 bytes of a row of characters. -/
def byteLength (cs : List Char) : Nat := cs.foldr (fun c n => c.utf8Size + n) 0

theorem length_encodeUtf8 (cs : List Char) : (encodeUtf8 cs).length = byteLength cs := by
  induction cs with
  | nil => rfl
  | cons c cs ih =>
    simp only [encodeUtf8, List.flatMap_cons, List.length_append, byteLength, List.foldr_cons,
      String.length_utf8EncodeChar] at ih ⊢
    omega

/-! ## Laws -/

theorem decodeFrom_cons (p : Option Pending) (b : UInt8) (bs : List UInt8) :
    decodeFrom p (b :: bs) = (readByte p b.toNat).1 ++ decodeFrom (readByte p b.toNat).2 bs := by
  cases p <;> rfl

/-- A byte that starts a character of several bytes. -/
theorem decodeFrom_start {b : UInt8} {p : Pending} (h : Pending.start? b.toNat = some p)
    (bs : List UInt8) : decodeFrom none (b :: bs) = decodeFrom (some p) bs := by
  have hascii : ¬ b.toNat < 0x80 := by
    intro hb
    simp only [Pending.start?] at h
    repeat rw [if_neg (by omega)] at h
    cases h
  rw [decodeFrom_cons]
  simp only [readByte, readLead, if_neg hascii, h, List.nil_append]

/-- A byte that goes on with a character. -/
theorem decodeFrom_next {b : UInt8} {owed code low high : Nat} (hlow : low ≤ b.toNat)
    (hhigh : b.toNat ≤ high) (bs : List UInt8) :
    decodeFrom (some ⟨owed + 2, code, low, high⟩) (b :: bs) =
      decodeFrom (some ⟨owed + 1, code * 64 + (b.toNat - 0x80), 0x80, 0xBF⟩) bs := by
  rw [decodeFrom_cons]
  simp [readByte, hlow, hhigh]

/-- A byte that ends a character. -/
theorem decodeFrom_last {b : UInt8} {code low high : Nat} (hlow : low ≤ b.toNat)
    (hhigh : b.toNat ≤ high) (bs : List UInt8) :
    decodeFrom (some ⟨1, code, low, high⟩) (b :: bs) =
      Char.ofNat (code * 64 + (b.toNat - 0x80)) :: decodeFrom none bs := by
  rw [decodeFrom_cons]
  simp [readByte, hlow, hhigh]

/-- What starts a character of three bytes, with the second byte in the range for it. -/
theorem Pending.start?_of_three {b n : Nat} (hb : 0xE0 ≤ b ∧ b ≤ 0xEF) (hn : 0x80 ≤ n ∧ n ≤ 0xBF)
    (hfirst : b = 0xE0 → 0xA0 ≤ n) (hsurrogate : b = 0xED → n ≤ 0x9F) :
    ∃ low high, start? b = some ⟨2, b - 0xE0, low, high⟩ ∧ low ≤ n ∧ n ≤ high := by
  rw [start?, if_neg (by omega)]
  by_cases h0 : b = 0xE0
  · exact ⟨0xA0, 0xBF, by rw [if_pos h0, h0], hfirst h0, hn.2⟩
  · by_cases hd : b = 0xED
    · exact ⟨0x80, 0x9F, by rw [if_neg h0, if_pos hd, hd], hn.1, hsurrogate hd⟩
    · exact ⟨0x80, 0xBF, by rw [if_neg h0, if_neg hd, if_pos (by omega)], hn⟩

/-- What starts a character of four bytes, with the second byte in the range for it. -/
theorem Pending.start?_of_four {b n : Nat} (hb : 0xF0 ≤ b ∧ b ≤ 0xF4) (hn : 0x80 ≤ n ∧ n ≤ 0xBF)
    (hfirst : b = 0xF0 → 0x90 ≤ n) (hlast : b = 0xF4 → n ≤ 0x8F) :
    ∃ low high, start? b = some ⟨3, b - 0xF0, low, high⟩ ∧ low ≤ n ∧ n ≤ high := by
  rw [start?, if_neg (by omega), if_neg (by omega), if_neg (by omega), if_neg (by omega)]
  by_cases h0 : b = 0xF0
  · exact ⟨0x90, 0xBF, by rw [if_pos h0, h0], hfirst h0, hn.2⟩
  · by_cases h4 : b = 0xF4
    · exact ⟨0x80, 0x8F, by rw [if_neg h0, if_neg (by omega), if_pos h4, h4], hn.1, hlast h4⟩
    · exact ⟨0x80, 0xBF, by rw [if_neg h0, if_pos (by omega)], hn⟩

theorem toNat_ofNat_of_lt {n : Nat} (h : n < 256) : (UInt8.ofNat n).toNat = n := by
  rw [UInt8.toNat_ofNat']
  exact Nat.mod_eq_of_lt h

theorem decodeFrom_two {v : Nat} (h : 0x80 ≤ v ∧ v ≤ 0x7FF) (rest : List UInt8) :
    decodeFrom none (UInt8.ofNat (v / 64 % 32 + 0xC0) :: UInt8.ofNat (v % 64 + 0x80) :: rest) =
      Char.ofNat v :: decodeFrom none rest := by
  have hlead : (UInt8.ofNat (v / 64 % 32 + 0xC0)).toNat = v / 64 + 0xC0 := by
    rw [toNat_ofNat_of_lt (by omega)]
    omega
  have hlast : (UInt8.ofNat (v % 64 + 0x80)).toNat = v % 64 + 0x80 := toNat_ofNat_of_lt (by omega)
  have hstart : Pending.start? (v / 64 + 0xC0) = some ⟨1, v / 64, 0x80, 0xBF⟩ := by
    rw [Pending.start?, if_pos (by omega), Nat.add_sub_cancel]
  have hcode : v / 64 * 64 + (v % 64 + 0x80 - 0x80) = v := by omega
  rw [decodeFrom_start (by rw [hlead]; exact hstart), decodeFrom_last (by omega) (by omega), hlast, hcode]

theorem decodeFrom_three {v : Nat} (h : 0x800 ≤ v ∧ v ≤ 0xFFFF) (hs : v < 0xD800 ∨ 0xDFFF < v)
    (rest : List UInt8) :
    decodeFrom none (UInt8.ofNat (v / 4096 % 16 + 0xE0) :: UInt8.ofNat (v / 64 % 64 + 0x80) ::
        UInt8.ofNat (v % 64 + 0x80) :: rest) = Char.ofNat v :: decodeFrom none rest := by
  have hlead : (UInt8.ofNat (v / 4096 % 16 + 0xE0)).toNat = v / 4096 + 0xE0 := by
    rw [toNat_ofNat_of_lt (by omega)]
    omega
  have hnext : (UInt8.ofNat (v / 64 % 64 + 0x80)).toNat = v / 64 % 64 + 0x80 :=
    toNat_ofNat_of_lt (by omega)
  have hlast : (UInt8.ofNat (v % 64 + 0x80)).toNat = v % 64 + 0x80 := toNat_ofNat_of_lt (by omega)
  obtain ⟨low, high, hstart, hrange⟩ := Pending.start?_of_three (b := v / 4096 + 0xE0)
    (n := v / 64 % 64 + 0x80) (by omega) (by omega) (by omega) (by omega)
  have hcode : ((v / 4096 + 0xE0 - 0xE0) * 64 + (v / 64 % 64 + 0x80 - 0x80)) * 64
      + (v % 64 + 0x80 - 0x80) = v := by omega
  rw [decodeFrom_start (by rw [hlead]; exact hstart), decodeFrom_next (by omega) (by omega),
    decodeFrom_last (by omega) (by omega), hnext, hlast, hcode]

theorem decodeFrom_four {v : Nat} (h : 0x10000 ≤ v ∧ v < 0x110000) (rest : List UInt8) :
    decodeFrom none (UInt8.ofNat (v / 262144 % 8 + 0xF0) :: UInt8.ofNat (v / 4096 % 64 + 0x80) ::
        UInt8.ofNat (v / 64 % 64 + 0x80) :: UInt8.ofNat (v % 64 + 0x80) :: rest) =
      Char.ofNat v :: decodeFrom none rest := by
  have hlead : (UInt8.ofNat (v / 262144 % 8 + 0xF0)).toNat = v / 262144 + 0xF0 := by
    rw [toNat_ofNat_of_lt (by omega)]
    omega
  have hsecond : (UInt8.ofNat (v / 4096 % 64 + 0x80)).toNat = v / 4096 % 64 + 0x80 :=
    toNat_ofNat_of_lt (by omega)
  have hthird : (UInt8.ofNat (v / 64 % 64 + 0x80)).toNat = v / 64 % 64 + 0x80 :=
    toNat_ofNat_of_lt (by omega)
  have hlast : (UInt8.ofNat (v % 64 + 0x80)).toNat = v % 64 + 0x80 := toNat_ofNat_of_lt (by omega)
  obtain ⟨low, high, hstart, hrange⟩ := Pending.start?_of_four (b := v / 262144 + 0xF0)
    (n := v / 4096 % 64 + 0x80) (by omega) (by omega) (by omega) (by omega)
  have hcode : (((v / 262144 + 0xF0 - 0xF0) * 64 + (v / 4096 % 64 + 0x80 - 0x80)) * 64
      + (v / 64 % 64 + 0x80 - 0x80)) * 64 + (v % 64 + 0x80 - 0x80) = v := by omega
  rw [decodeFrom_start (by rw [hlead]; exact hstart), decodeFrom_next (by omega) (by omega),
    decodeFrom_next (by omega) (by omega), decodeFrom_last (by omega) (by omega), hsecond, hthird, hlast,
    hcode]

/-- A character is read back, with whatever comes after it. -/
theorem decodeFrom_encodeChar (c : Char) (rest : List UInt8) :
    decodeFrom none (String.utf8EncodeChar c ++ rest) = c :: decodeFrom none rest := by
  obtain ⟨v, hv, hvalid, hchar⟩ : ∃ v, c.val.toNat = v ∧
      (v < 0xD800 ∨ 0xDFFF < v ∧ v < 0x110000) ∧ Char.ofNat v = c :=
    ⟨_, rfl, c.valid, Char.ofNat_toNat c⟩
  simp only [String.utf8EncodeChar, hv]
  rw [← hchar]
  split
  next hone =>
    have hbyte : (UInt8.ofNat v).toNat = v := toNat_ofNat_of_lt (by omega)
    have hascii : v < 0x80 := by omega
    rw [List.cons_append, List.nil_append, decodeFrom_cons]
    simp only [readByte, readLead, hbyte, if_pos hascii, List.cons_append, List.nil_append]
  next hmore =>
    split
    next htwo => exact decodeFrom_two (by omega) rest
    next hmore2 =>
      split
      next hthree => exact decodeFrom_three (by omega) (by omega) rest
      next hfour => exact decodeFrom_four (by omega) rest

/-- What is written in UTF-8 is read back. -/
theorem decodeLossy_encodeUtf8 (cs : List Char) : decodeLossy (encodeUtf8 cs) = cs := by
  induction cs with
  | nil => rfl
  | cons c cs ih =>
    rw [encodeUtf8, List.flatMap_cons, decodeLossy, decodeFrom_encodeChar]
    exact congrArg (c :: ·) ih

/-! ## Tests -/

example : decodeLossy (encodeUtf8 "aé€😀".toList) = "aé€😀".toList := by decide
/-- A cut character is one replacement, and the byte after it is read on its own. -/
example : decodeLossy [0xE2, 0x82, 0x41] = [replacement, 'A'] := by decide
/-- An overlong form, a surrogate and a code point past the last one. -/
example : decodeLossy [0xE0, 0x80] = [replacement, replacement] := by decide
example : decodeLossy [0xED, 0xA0, 0x80] = [replacement, replacement, replacement] := by decide
example : decodeLossy [0xF4, 0x90] = [replacement, replacement] := by decide
example : decodeLossy [0xF0, 0x9F, 0x98] = [replacement] := by decide

end Telemetry.Text
