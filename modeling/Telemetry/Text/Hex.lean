/-!
# Hexadecimal text

Trace and span ids, flag bytes and percent escapes are written in hexadecimal.  Reading takes
digits of either case.  Writing uses lower case and a fixed width.

`readHex_writeHex` says that reading what was written gives the number back, as long as it fits
the width.
-/

namespace Telemetry.Text

/-! ## Digits -/

/-- The value of a hexadecimal digit of either case. -/
def hexValue? (c : Char) : Option Nat :=
  if '0' ≤ c ∧ c ≤ '9' then some (c.toNat - 48)
  else if 'a' ≤ c ∧ c ≤ 'f' then some (c.toNat - 87)
  else if 'A' ≤ c ∧ c ≤ 'F' then some (c.toNat - 55)
  else none

/-- A hexadecimal digit of either case. -/
def isHex (c : Char) : Bool := (hexValue? c).isSome

/-- A hexadecimal digit that is not an upper case letter. -/
def isLowerHex (c : Char) : Bool := ('0' ≤ c && c ≤ '9') || ('a' ≤ c && c ≤ 'f')

/-- The digit for a number below sixteen, in lower case. -/
def hexDigit (n : Nat) : Char := Nat.digitChar n

/-! ## Numbers -/

/-- One more digit at the end of a number. -/
def pushHex (n : Nat) (c : Char) : Nat := n * 16 + (hexValue? c).getD 0

/-- The number that a row of hexadecimal digits writes. -/
def readHex (cs : List Char) : Nat := cs.foldl pushHex 0

/-- The last `width` hexadecimal digits of a number, in lower case. -/
def writeHex : Nat → Nat → List Char
  | 0, _ => []
  | width + 1, n => writeHex width (n / 16) ++ [hexDigit (n % 16)]
termination_by structural width => width

/-! ## Laws -/

theorem hexValue?_hexDigit : ∀ n < 16, hexValue? (hexDigit n) = some n := by decide

theorem isLowerHex_hexDigit : ∀ n < 16, isLowerHex (hexDigit n) = true := by decide

theorem isHex_of_isLowerHex {c : Char} (h : isLowerHex c = true) : isHex c = true := by
  simp only [isLowerHex, Bool.or_eq_true, Bool.and_eq_true, decide_eq_true_eq] at h
  rcases h with h | h
  · simp [isHex, hexValue?, h]
  · by_cases hd : '0' ≤ c ∧ c ≤ '9' <;> simp [isHex, hexValue?, h, hd]

@[simp] theorem length_writeHex (width n : Nat) : (writeHex width n).length = width := by
  induction width generalizing n with
  | zero => rfl
  | succ w ih => simp [writeHex, ih]

theorem isLowerHex_of_mem_writeHex {width n : Nat} {c : Char} (h : c ∈ writeHex width n) :
    isLowerHex c = true := by
  induction width generalizing n with
  | zero => simp [writeHex] at h
  | succ w ih =>
    simp only [writeHex, List.mem_append, List.mem_singleton] at h
    rcases h with h | rfl
    · exact ih h
    · exact isLowerHex_hexDigit _ (Nat.mod_lt _ (by decide))

/-- A number that fits the width is read back. -/
theorem readHex_writeHex {width n : Nat} (h : n < Nat.pow 16 width) : readHex (writeHex width n) = n := by
  induction width generalizing n with
  | zero =>
    have : n = 0 := by simpa using h
    simp [this, writeHex, readHex]
  | succ w ih =>
    have hdiv : n / 16 < Nat.pow 16 w := (Nat.div_lt_iff_lt_mul (by decide)).2 h
    have hlast : hexValue? (hexDigit (n % 16)) = some (n % 16) :=
      hexValue?_hexDigit _ (Nat.mod_lt _ (by decide))
    have hrest : List.foldl pushHex 0 (writeHex w (n / 16)) = n / 16 := ih hdiv
    simp only [writeHex, readHex, List.foldl_append, List.foldl_cons, List.foldl_nil, hrest,
      pushHex, hlast, Option.getD_some]
    omega

/-! ## Tests -/

example : readHex "00f067aa0ba902b7".toList = 0x00f067aa0ba902b7 := by decide
example : String.ofList (writeHex 4 0xab) = "00ab" := by decide
example : hexValue? 'g' = none ∧ hexValue? 'F' = some 15 ∧ hexValue? '+' = none := by decide

end Telemetry.Text
