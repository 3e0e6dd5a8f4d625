/-!
# Blank characters

Headers and environment values are read with the blank characters around them taken off.  A
character is *blank* when it has the Unicode property `White_Space`, which is 25 code points and
not the six of ASCII.

`trim` works on both ends of a list of characters.  The lemmas say what the three trims do to a
text without blank ends: nothing.
-/

namespace Telemetry.Text

/-! ## The property -/

/-- The code points with the Unicode property `White_Space`. -/
def isBlankCode (n : Nat) : Bool :=
  (9 ≤ n && n ≤ 13) || n == 0x20 || n == 0x85 || n == 0xA0 || n == 0x1680
    || (0x2000 ≤ n && n ≤ 0x200A) || n == 0x2028 || n == 0x2029 || n == 0x202F || n == 0x205F
    || n == 0x3000

/-- A character with the Unicode property `White_Space`. -/
def isBlank (c : Char) : Bool := isBlankCode c.toNat

/-! ## Trimming -/

/-- The text without its leading blanks. -/
def trimLeft (cs : List Char) : List Char := cs.dropWhile isBlank

/-- The text without its trailing blanks. -/
def trimRight (cs : List Char) : List Char := (cs.reverse.dropWhile isBlank).reverse

/-- The text without the blanks at its two ends. -/
def trim (cs : List Char) : List Char := trimRight (trimLeft cs)

theorem trimLeft_cons_of_not_blank {c : Char} {cs : List Char} (h : isBlank c = false) :
    trimLeft (c :: cs) = c :: cs := by
  simp [trimLeft, h]

/-- Blanks in front of a text are not seen by `trimLeft`. -/
theorem trimLeft_append_of_blank {w : List Char} (h : ∀ c ∈ w, isBlank c = true)
    (cs : List Char) : trimLeft (w ++ cs) = trimLeft cs := by
  induction w with
  | nil => rfl
  | cons c w ih =>
    have hc : isBlank c = true := h c List.mem_cons_self
    have hw : ∀ d ∈ w, isBlank d = true := fun d hd => h d (List.mem_cons_of_mem _ hd)
    simpa [trimLeft, hc] using ih hw

/-- Blanks behind a text are not seen by `trimRight`. -/
theorem trimRight_append_of_blank {w : List Char} (h : ∀ c ∈ w, isBlank c = true)
    (cs : List Char) : trimRight (cs ++ w) = trimRight cs := by
  have hr : ∀ c ∈ w.reverse, isBlank c = true := fun c hc => h c (List.mem_reverse.mp hc)
  have := trimLeft_append_of_blank hr cs.reverse
  simp only [trimLeft] at this
  simp [trimRight, this]

/-! ## Tests -/

example : trim " \t a b\u3000\n".toList = "a b".toList := by decide
example : trim "\u200ba".toList = "\u200ba".toList := by decide
example : trim "  ".toList = [] := by decide

end Telemetry.Text
