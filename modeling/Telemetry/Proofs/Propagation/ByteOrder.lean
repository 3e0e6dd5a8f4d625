import Mathlib.Data.String.Basic
import Telemetry.SortedMap
import Telemetry.Text.Utf8

/-!
# The order of texts is that of their bytes

Maps have their entries in the order of their keys, and texts are compared character by character.  UTF-8
is made so that comparing bytes gives the same order.  Two characters of the same number of bytes differ
in the bits that their first bytes carry, or else in those behind, six bits a byte.  Of two characters of
different numbers of bytes the longer one is the greater one, and its first byte is marked with the
greater number.
-/

namespace Telemetry

namespace Text

/-! ## The bytes of a character -/

/-- How many bytes a code point has behind the first one. -/
def trailingCount (v : Nat) : Nat :=
  if v ≤ 0x7F then 0 else if v ≤ 0x7FF then 1 else if v ≤ 0xFFFF then 2 else 3

/-- The bytes behind the first one, which carry six bits each. -/
def trailing : Nat → Nat → List UInt8
  | 0, _ => []
  | n + 1, v => UInt8.ofNat (v / 64 ^ n % 64 + 0x80) :: trailing n v
termination_by structural n => n

/-- What a first byte is marked with for the number of bytes behind it. -/
def leadMark : Nat → Nat
  | 0 => 0
  | 1 => 0xC0
  | 2 => 0xE0
  | _ => 0xF0

/-- The first byte of a code point. -/
def lead (v : Nat) : Nat := v / 64 ^ trailingCount v + leadMark (trailingCount v)

theorem charCode_lt (c : Char) : c.toNat < 0x110000 := by
  obtain h | ⟨-, h⟩ := c.valid
  · exact Nat.lt_trans h (by decide)
  · exact h

theorem utf8EncodeChar_eq (c : Char) : String.utf8EncodeChar c =
    UInt8.ofNat (lead c.toNat) :: trailing (trailingCount c.toNat) c.toNat := by
  have hv := charCode_lt c
  unfold String.utf8EncodeChar lead trailingCount
  rw [show c.val.toNat = c.toNat from rfl]
  generalize c.toNat = v at hv
  dsimp only
  split
  next => simp only [leadMark, trailing, Nat.pow_zero, Nat.div_one, Nat.add_zero]
  next =>
    split
    next =>
      have hlead : v / 64 % 32 = v / 64 := Nat.mod_eq_of_lt (by omega)
      simp only [leadMark, trailing, Nat.pow_zero, Nat.div_one, Nat.pow_one, hlead]
    next =>
      split
      next =>
        have hlead : v / 4096 % 16 = v / 4096 := Nat.mod_eq_of_lt (by omega)
        simp only [leadMark, trailing, Nat.pow_zero, Nat.div_one, Nat.pow_one, Nat.reducePow, hlead]
      next =>
        have hlead : v / 262144 % 8 = v / 262144 := Nat.mod_eq_of_lt (by omega)
        simp only [leadMark, trailing, Nat.pow_zero, Nat.div_one, Nat.pow_one, Nat.reducePow, hlead]

theorem lead_lt_size {v : Nat} (h : v < 0x110000) : lead v < 256 := by
  unfold lead trailingCount
  grind [leadMark]

theorem trailingCount_mono {v w : Nat} (h : v ≤ w) : trailingCount v ≤ trailingCount w := by
  unfold trailingCount
  grind

/-- The first byte tells apart how many are behind it. -/
theorem lead_lt_of_trailingCount_lt {v w : Nat} (h : trailingCount v < trailingCount w) :
    lead v < lead w := by
  unfold lead trailingCount
  unfold trailingCount at h
  grind [leadMark]

/-! ## Order -/

theorem cons_lt_cons {a b : Nat} (hb : b < 256) {xs ys : List UInt8} (h : a < b ∨ a = b ∧ xs < ys) :
    UInt8.ofNat a :: xs < UInt8.ofNat b :: ys := by
  rw [List.cons_lt_cons_iff]
  refine h.imp (fun hab => ?_) (fun ⟨hab, ht⟩ => ⟨congrArg _ hab, ht⟩)
  rw [UInt8.lt_iff_toNat_lt, toNat_ofNat_of_lt (Nat.lt_trans hab hb), toNat_ofNat_of_lt hb]
  exact hab

/-- The smaller of two numbers is smaller in front, or else behind. -/
theorem div_lt_or_mod_lt {x y : Nat} (h : x < y) (m : Nat) :
    x / m < y / m ∨ x / m = y / m ∧ x % m < y % m := by
  rcases Nat.lt_or_eq_of_le (Nat.div_le_div_right (c := m) (Nat.le_of_lt h)) with hlt | heq
  · exact .inl hlt
  · have hx := Nat.div_add_mod x m
    have hy := Nat.div_add_mod y m
    rw [heq] at hx
    exact .inr ⟨heq, by omega⟩

theorem trailing_lt {n v w : Nat} (h : v % 64 ^ n < w % 64 ^ n) (xs ys : List UInt8) :
    trailing n v ++ xs < trailing n w ++ ys := by
  induction n with
  | zero => simp [Nat.mod_one] at h
  | succ n ih =>
    have hsplit := div_lt_or_mod_lt h (64 ^ n)
    rw [Nat.pow_succ, Nat.mod_mul_right_div_self, Nat.mod_mul_right_div_self, Nat.mod_mul_right_mod,
      Nat.mod_mul_right_mod] at hsplit
    refine cons_lt_cons (by omega) ?_
    exact hsplit.imp (Nat.add_lt_add_right · _) (And.imp (congrArg (· + 0x80)) ih)

/-- Characters are in the order of their bytes, whatever comes behind these. -/
theorem utf8EncodeChar_lt {c d : Char} (h : c < d) (xs ys : List UInt8) :
    String.utf8EncodeChar c ++ xs < String.utf8EncodeChar d ++ ys := by
  have hlt : c.toNat < d.toNat := UInt32.lt_iff_toNat_lt.mp h
  rw [utf8EncodeChar_eq, utf8EncodeChar_eq]
  refine cons_lt_cons (lead_lt_size (charCode_lt d)) ?_
  rcases Nat.lt_or_eq_of_le (trailingCount_mono (Nat.le_of_lt hlt)) with hcount | hcount
  · exact .inl (lead_lt_of_trailingCount_lt hcount)
  · -- as many bytes: the bits in the first one decide, or else those behind it
    have hsplit := div_lt_or_mod_lt hlt (64 ^ trailingCount d.toNat)
    rw [lead, lead, hcount]
    exact hsplit.imp (Nat.add_lt_add_right · _) (And.imp (congrArg (· + _)) (trailing_lt · xs ys))

/-- Texts are in the order of their bytes. -/
theorem encodeUtf8_lt {a b : List Char} (h : a < b) : encodeUtf8 a < encodeUtf8 b := by
  induction h with
  | @nil c b =>
    have hc : String.utf8EncodeChar c ≠ [] := by
      rw [utf8EncodeChar_eq]
      exact List.cons_ne_nil _ _
    cases hb : encodeUtf8 (c :: b) with
    | nil => exact absurd (List.append_eq_nil_iff.mp hb).1 hc
    | cons => exact List.nil_lt_cons _ _
  | cons _ ih => exact List.append_left_lt ih
  | rel h => exact utf8EncodeChar_lt h _ _

end Text

/-- A map with texts for keys has its entries in the order of the bytes of the keys. -/
theorem SortedMap.pairwise_encodeUtf8_lt {β : Type} (m : SortedMap String β) :
    m.toList.Pairwise fun d e => Text.encodeUtf8 d.1.toList < Text.encodeUtf8 e.1.toList :=
  m.sorted.imp fun h =>
    Text.encodeUtf8_lt (String.lt_iff_toList_lt.mp (compareOfLessAndEq_eq_lt.mp h))

end Telemetry
