import Telemetry.Text.Casing

/-!
# Lower case

Header names compare without regard to case, so a map of headers is asked with names in lower
case.  This is the lower case of Unicode and not that of ASCII: a name may hold any text.

A character has one lower case, whatever stands around it, with one exception.  The Greek capital
sigma becomes the final sigma at the end of a word, that is, when the nearest character before it
that case rules do not look past is a cased letter, and the nearest one after it is not.

A text whose characters all are their own lower case is its own lower case, wherever it stands
(`lowerBehind_of_pointwise`).
-/

namespace Telemetry.Text

/-! ## Characters -/

/-- The Greek capital sigma, whose lower case depends on its place. -/
def capitalSigma : Char := '\u03a3'

/-- The lower case of a character that stands alone. -/
def lowerChar (c : Char) : List Char :=
  if c.toNat < 128 then [c.toLower]
  else if c = '\u0130' then ['i', '\u0307']
  else [((caseRuns.findSome? (·.lower? c.toNat)).map Char.ofNat).getD c]

/-- Whether the nearest character that is not looked past is a cased letter. -/
def startsCased (cs : List Char) : Bool :=
  match cs.dropWhile isCaseIgnorable with
  | c :: _ => isCased c
  | [] => false

/-- The lower case of a capital sigma between the text before it, nearest character first, and
the text after it. -/
def lowerSigma (before after : List Char) : Char :=
  if startsCased before && !startsCased after then '\u03c2' else '\u03c3'

/-! ## Texts -/

/-- The lower case of a text that stands behind the given characters, nearest first. -/
def lowerBehind (before : List Char) : List Char → List Char
  | [] => []
  | c :: cs =>
    (if c = capitalSigma then [lowerSigma before cs] else lowerChar c) ++ lowerBehind (c :: before) cs
termination_by structural cs => cs

/-- The lower case of a text. -/
def lowerCase (cs : List Char) : List Char := lowerBehind [] cs

theorem lowerBehind_of_pointwise {cs : List Char}
    (h : ∀ c ∈ cs, c ≠ capitalSigma ∧ lowerChar c = [c]) (before : List Char) :
    lowerBehind before cs = cs := by
  induction cs generalizing before with
  | nil => rfl
  | cons c cs ih =>
    obtain ⟨hs, hl⟩ := h c List.mem_cons_self
    simp [lowerBehind, hs, hl, ih fun d hd => h d (List.mem_cons_of_mem _ hd)]

/-! ## Tests -/

example : lowerCase "TraceParent".toList = "traceparent".toList := by decide
example : lowerCase "ÀÉ".toList = "àé".toList := by decide
/-- A sigma ends a word, starts one, and stands alone. -/
example : lowerCase "ΑΣ".toList = "ας".toList := by decide
example : lowerCase "ΣΑ".toList = "σα".toList := by decide
example : lowerCase "Σ".toList = "σ".toList := by decide
example : lowerCase "\u0130".toList = "i\u0307".toList := by decide
example : lowerCase "\u1e9e".toList = "ß".toList := by decide

end Telemetry.Text
