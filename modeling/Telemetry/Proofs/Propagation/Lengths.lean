import Mathlib.Algebra.Order.BigOperators.Group.List
import Mathlib.Algebra.Order.Group.Nat
import Mathlib.Algebra.Ring.Nat
import Telemetry.Proofs.Propagation.ByteOrder
import Telemetry.Proofs.Propagation.Escapes

/-!
# Lengths of texts in headers

Limits on headers count bytes, those of the header as it is sent.  A text that is written with escapes is
at most three times as long as it was, for an escape takes three bytes (`byteLength_encodePercent_le`).
Reading makes no text longer (`byteLength_decodePercent_le`).  What has to be seen for this is that
replacements do not.  A replacement has three bytes, and so has the escape that it is for.  Bytes that are
not escaped never need one, since they are those of a character and come together.
-/

namespace Telemetry.Text

/-! ## Rows -/

theorem byteLength_cons (c : Char) (cs : List Char) : byteLength (c :: cs) = c.utf8Size + byteLength cs := rfl

theorem byteLength_eq_sum (cs : List Char) : byteLength cs = (cs.map Char.utf8Size).sum := by
  induction cs with
  | nil => rfl
  | cons c cs ih => rw [byteLength_cons, ih, List.map_cons, List.sum_cons]

theorem byteLength_append (cs ds : List Char) : byteLength (cs ++ ds) = byteLength cs + byteLength ds := by
  rw [byteLength_eq_sum, byteLength_eq_sum, byteLength_eq_sum, List.map_append, List.sum_append]

theorem byteLength_le_of_sublist {cs ds : List Char} (h : cs.Sublist ds) : byteLength cs ≤ byteLength ds := by
  rw [byteLength_eq_sum, byteLength_eq_sum]
  exact (h.map _).sum_le_sum fun _ _ => Nat.zero_le _

theorem byteLength_join (sep : Char) (fs : List (List Char)) : byteLength (join sep fs) =
    (fs.map byteLength).sum + (fs.length - 1) * sep.utf8Size := by
  induction fs with
  | nil => simp [join, byteLength]
  | cons f fs ih =>
    cases fs with
    | nil => simp [join]
    | cons g gs =>
      rw [join_cons_of_ne_nil sep f (List.cons_ne_nil g gs), byteLength_append, byteLength_cons, ih]
      simp only [List.map_cons, List.sum_cons, List.length_cons, Nat.add_sub_cancel, Nat.add_mul,
        Nat.one_mul]
      omega

theorem byteLength_join_le_of_sublist (sep : Char) {fs gs : List (List Char)} (h : fs.Sublist gs) :
    byteLength (join sep fs) ≤ byteLength (join sep gs) := by
  rw [byteLength_join, byteLength_join]
  exact Nat.add_le_add ((h.map _).sum_le_sum fun _ _ => Nat.zero_le _)
    (Nat.mul_le_mul_right _ (Nat.sub_le_sub_right h.length_le 1))

/-- The fields of a text are as long as the text, without its separators. -/
theorem sum_byteLength_fields_le (sep : Char) (cs : List Char) :
    ((fields sep cs).map byteLength).sum ≤ byteLength cs := by
  have hjoin := byteLength_join sep (fields sep cs)
  rw [join_fields] at hjoin
  omega

theorem byteLength_le_of_mem_fields {sep : Char} {cs f : List Char} (h : f ∈ fields sep cs) :
    byteLength f ≤ byteLength cs :=
  (List.le_sum_of_mem (List.mem_map_of_mem h)).trans (sum_byteLength_fields_le sep cs)

/-! ## Writing escapes -/

theorem byteLength_escapeByte (b : UInt8) : byteLength (escapeByte b) = 3 := by
  have hdigit : ∀ n < 16, (hexDigit n).toUpper.utf8Size = 1 := by decide
  have hhigh := hdigit (b.toNat / 16) (by have := b.toNat_lt; omega)
  have hlow := hdigit (b.toNat % 16) (Nat.mod_lt _ (by decide))
  rw [escapeByte, byteLength_cons, byteLength_cons, byteLength_cons, hhigh, hlow]
  rfl

theorem byteLength_escapes (bs : List UInt8) : byteLength (bs.flatMap escapeByte) = 3 * bs.length := by
  induction bs with
  | nil => rfl
  | cons b bs ih =>
    rw [List.flatMap_cons, byteLength_append, byteLength_escapeByte, ih, List.length_cons]
    omega

theorem byteLength_encodePercent_le (escaped : Char → Bool) (cs : List Char) :
    byteLength (encodePercent escaped cs) ≤ 3 * byteLength cs := by
  induction cs with
  | nil => exact Nat.le_refl 0
  | cons c cs ih =>
    have hc : byteLength (encodePercentChar escaped c) ≤ 3 * c.utf8Size := by
      unfold encodePercentChar
      split
      next => exact Nat.le_mul_of_pos_left c.utf8Size (by decide)
      next => rw [byteLength_escapes, String.length_utf8EncodeChar]
    rw [encodePercent, List.flatMap_cons, byteLength_append, byteLength_cons, ← encodePercent]
    omega

/-- The bound is reached where nothing is written as it is. -/
theorem byteLength_encodePercent_of_not_ascii {cs : List Char} (h : ∀ c ∈ cs, 128 ≤ c.toNat)
    (escaped : Char → Bool) : byteLength (encodePercent escaped cs) = 3 * byteLength cs := by
  induction cs with
  | nil => rfl
  | cons c cs ih =>
    obtain ⟨hc, hcs⟩ := List.forall_mem_cons.mp h
    have hplain : ¬ isPlain escaped c = true := by
      simp only [isPlain, Bool.and_eq_true, decide_eq_true_eq]
      omega
    have hchar : encodePercentChar escaped c = (String.utf8EncodeChar c).flatMap escapeByte := if_neg hplain
    rw [encodePercent, List.flatMap_cons, byteLength_append, byteLength_cons, ← encodePercent, ih hcs, hchar,
      byteLength_escapes, String.length_utf8EncodeChar, Nat.mul_add]

/-! ## Reading escapes -/

/-- A text without escapes is read as it is. -/
theorem decodePercent_of_not_mem {cs : List Char} (h : '%' ∉ cs) : decodePercent cs = cs := by
  have hbytes : percentBytes cs = encodeUtf8 cs := by
    induction cs with
    | nil => rfl
    | cons c cs ih =>
      rw [percentBytes_bare (List.ne_of_not_mem_cons h).symm, ih (List.not_mem_of_not_mem_cons h)]
      rfl
  rw [decodePercent, hbytes, decodeLossy_encodeUtf8]

/-- Whether no byte but one inside a character goes on with the character in progress. -/
def Pending.Trails (p : Pending) : Prop := 0x80 ≤ p.low ∧ p.high ≤ 0xBF

/-- The bytes of the replacement that stands for a character in progress if it is broken off. -/
def brokenLength : Option Pending → Nat
  | none => 0
  | some _ => 3

theorem Pending.trails_of_start? {b : Nat} {p : Pending} (h : start? b = some p) : p.Trails := by
  unfold start? at h
  unfold Trails
  grind

theorem trails_of_readByte {p : Option Pending} {b : Nat} {q : Pending} (h : (readByte p b).2 = some q) :
    q.Trails := by
  have hlead (h : (readLead b).2 = some q) : q.Trails := by
    unfold readLead at h
    split at h
    next => cases h
    next =>
      split at h
      next p hp =>
        cases h
        exact Pending.trails_of_start? hp
      next => cases h
  cases p with
  | none => exact hlead h
  | some p =>
    rw [readByte] at h
    split at h
    next =>
      dsimp only at h
      split at h
      next => cases h
      next =>
        cases h
        exact ⟨Nat.le_refl _, Nat.le_refl _⟩
    next => exact hlead h

/-- A byte brings at most three bytes of text, with those counted that it may still come to. -/
theorem length_readLead_le (b : Nat) :
    byteLength (readLead b).1 + brokenLength (readLead b).2 ≤ 3 := by
  have hascii : ∀ n < 0x80, (Char.ofNat n).utf8Size = 1 := by decide
  unfold readLead
  split
  next h =>
    have hlength : byteLength [Char.ofNat b] = 1 := hascii b h
    rw [hlength, brokenLength]
    decide
  next =>
    split
    next => exact Nat.le_refl 3
    next => exact Nat.le_refl 3

theorem length_readByte_le (p : Option Pending) (b : Nat) :
    byteLength (readByte p b).1 + brokenLength (readByte p b).2 ≤ brokenLength p + 3 := by
  have hlead := length_readLead_le b
  cases p with
  | none => exact hlead.trans (Nat.le_add_left ..)
  | some p =>
    rw [readByte]
    split
    next =>
      dsimp only
      split
      next =>
        have hlast := (Char.ofNat (p.code * 64 + (b - 0x80))).utf8Size_le_four
        have hnil : byteLength [] = 0 := rfl
        rw [byteLength_cons, hnil, brokenLength, brokenLength]
        omega
      next => exact Nat.le_add_right 3 3
    next =>
      have hreplacement : replacement.utf8Size = 3 := by decide
      dsimp only
      rw [byteLength_cons, hreplacement, brokenLength]
      omega

/-- The first byte of a character breaks off what is in progress. -/
theorem decodeFrom_some_encodeChar {p : Pending} (hp : p.Trails) (c : Char) (rest : List UInt8) :
    decodeFrom (some p) (String.utf8EncodeChar c ++ rest) = replacement :: c :: decodeFrom none rest := by
  have hlead : lead c.toNat < 0x80 ∨ 0xC0 ≤ lead c.toNat := by
    unfold lead trailingCount
    grind [leadMark]
  have hbyte : (UInt8.ofNat (lead c.toNat)).toNat = lead c.toNat :=
    UInt8.toNat_ofNat_of_lt' (lead_lt_size (charCode_lt c))
  have hout : ¬ (p.low ≤ lead c.toNat ∧ lead c.toNat ≤ p.high) := by
    obtain ⟨hlow, hhigh⟩ := hp
    omega
  have hchar := decodeFrom_encodeChar c rest
  rw [utf8EncodeChar_eq, List.cons_append, decodeFrom_cons, hbyte] at hchar ⊢
  rw [readByte, if_neg hout, ← hchar]
  rfl

theorem byteLength_decodeFrom_le (cs : List Char) (p : Option Pending) (hp : ∀ q ∈ p, q.Trails) :
    byteLength (decodeFrom p (percentBytes cs)) ≤ brokenLength p + byteLength cs := by
  -- a character that is no escape breaks off what is in progress, and stays
  have hbare (c : Char) (cs : List Char) (p : Option Pending) (hp : ∀ q ∈ p, q.Trails)
      (ih : byteLength (decodeFrom none (percentBytes cs)) ≤ byteLength cs) :
      byteLength (decodeFrom p (String.utf8EncodeChar c ++ percentBytes cs)) ≤
        brokenLength p + byteLength (c :: cs) := by
    cases p with
    | none =>
      rw [decodeFrom_encodeChar, byteLength_cons, byteLength_cons, brokenLength]
      omega
    | some q =>
      have hreplacement : replacement.utf8Size = 3 := by decide
      rw [decodeFrom_some_encodeChar (hp q rfl), byteLength_cons, byteLength_cons, byteLength_cons,
        hreplacement, brokenLength]
      omega
  fun_induction percentBytes cs generalizing p with
  | case1 =>
    cases p with
    | none => decide
    | some q => exact Nat.le_of_eq rfl
  | case2 high low cs b hescape ih =>
    have hbyte := length_readByte_le p b.toNat
    have hrest := ih (readByte p b.toNat).2 fun q hq => trails_of_readByte hq
    have hhigh := high.utf8Size_pos
    have hlow := low.utf8Size_pos
    have hpercent : '%'.utf8Size = 1 := rfl
    rw [decodeFrom_cons, byteLength_append, byteLength_cons, byteLength_cons, byteLength_cons, hpercent]
    omega
  | case3 high low cs hescape ih =>
    have hnone := ih none nofun
    exact hbare '%' (high :: low :: cs) p hp (by simpa [brokenLength] using hnone)
  | case4 c cs hpercent ih =>
    have hnone := ih none nofun
    exact hbare c cs p hp (by simpa [brokenLength] using hnone)

/-- Reading makes no text longer, replacements and all. -/
theorem byteLength_decodePercent_le (cs : List Char) : byteLength (decodePercent cs) ≤ byteLength cs := by
  have hnone := byteLength_decodeFrom_le cs none nofun
  rwa [brokenLength, Nat.zero_add] at hnone

end Telemetry.Text
