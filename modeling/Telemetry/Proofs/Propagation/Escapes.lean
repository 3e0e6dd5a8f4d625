import Telemetry.Proofs.Propagation.TraceStates

/-!
# Escapes are read back

A header that carries texts of an application escapes what it would read as its own.  Whatever a header
escapes, if only the percent sign is among it, reading gives back what was written
(`decodePercent_encodePercent`).  What stands for a character is read to the bytes of that character,
whatever comes behind it, so the reader of UTF-8 sees the bytes of the text and no others.

What is written is visible ASCII, so that there is nothing to trim, and of the characters that a header
escapes only those are in it that escapes are made of.
-/

namespace Telemetry.Text

variable {escaped : Char → Bool}

/-! ## Reading what was written -/

theorem hexValue?_toUpper_hexDigit : ∀ n < 16, hexValue? (hexDigit n).toUpper = some n := by decide

/-- An escape spells its byte. -/
theorem percentBytes_escapeByte (b : UInt8) (rest : List Char) :
    percentBytes (escapeByte b ++ rest) = b :: percentBytes rest := by
  have hhigh : hexValue? (hexDigit (b.toNat / 16)).toUpper = some (b.toNat / 16) :=
    hexValue?_toUpper_hexDigit _ (by have := b.toNat_lt; omega)
  have hlow : hexValue? (hexDigit (b.toNat % 16)).toUpper = some (b.toNat % 16) :=
    hexValue?_toUpper_hexDigit _ (Nat.mod_lt _ (by decide))
  have hbyte : UInt8.ofNat (b.toNat / 16 * 16 + b.toNat % 16) = b := by
    rw [Nat.div_add_mod', UInt8.ofNat_toNat]
  simp only [escapeByte, List.cons_append, List.nil_append, percentBytes, escapedByte?, hhigh, hlow, hbyte]

theorem percentBytes_escapes (bs : List UInt8) (rest : List Char) :
    percentBytes (bs.flatMap escapeByte ++ rest) = bs ++ percentBytes rest := by
  induction bs with
  | nil => rfl
  | cons b bs ih =>
    rw [List.flatMap_cons, List.append_assoc, percentBytes_escapeByte, ih, List.cons_append]

/-- What stands for a character is read to its bytes. -/
theorem percentBytes_encodePercentChar (hpercent : escaped '%' = true) (c : Char) (rest : List Char) :
    percentBytes (encodePercentChar escaped c ++ rest) = String.utf8EncodeChar c ++ percentBytes rest := by
  unfold encodePercentChar
  split
  next hplain =>
    have hc : c ≠ '%' := by
      rintro rfl
      rw [isPlain, hpercent, Bool.not_true, Bool.and_false] at hplain
      cases hplain
    exact percentBytes_bare hc rest
  next => exact percentBytes_escapes _ rest

theorem percentBytes_encodePercent (hpercent : escaped '%' = true) (cs : List Char) :
    percentBytes (encodePercent escaped cs) = encodeUtf8 cs := by
  induction cs with
  | nil => rfl
  | cons c cs ih =>
    rw [encodePercent, List.flatMap_cons, percentBytes_encodePercentChar hpercent, ← encodePercent, ih]
    rfl

/-- A text is read back from its escapes. -/
theorem decodePercent_encodePercent (hpercent : escaped '%' = true) (cs : List Char) :
    decodePercent (encodePercent escaped cs) = cs := by
  rw [decodePercent, percentBytes_encodePercent hpercent, decodeLossy_encodeUtf8]

/-! ## Trimming -/

theorem trimLeft_eq_self_iff {cs : List Char} : trimLeft cs = cs ↔ ∀ c ∈ cs.head?, isBlank c = false := by
  rw [trimLeft, List.dropWhile_eq_self_iff]
  cases cs with
  | nil => simp
  | cons c cs => simp

theorem trimRight_sublist (cs : List Char) : (trimRight cs).Sublist cs := by
  have hreverse := (List.dropWhile_sublist isBlank (l := cs.reverse)).reverse
  rwa [List.reverse_reverse] at hreverse

theorem trim_sublist (cs : List Char) : (trim cs).Sublist cs :=
  (trimRight_sublist _).trans (List.dropWhile_sublist isBlank)

/-- A text stays as it is when it is trimmed, if it neither begins nor ends with a blank. -/
theorem trim_eq_self_iff {cs : List Char} :
    trim cs = cs ↔ (∀ c ∈ cs.head?, isBlank c = false) ∧ ∀ c ∈ cs.getLast?, isBlank c = false := by
  rw [← trimLeft_eq_self_iff, ← trimRight_eq_self_iff]
  constructor
  · intro h
    have hlength : cs.length ≤ (trimLeft cs).length := by
      have hle := (trimRight_sublist (trimLeft cs)).length_le
      rwa [← trim, h] at hle
    have hleft : trimLeft cs = cs := (List.dropWhile_sublist isBlank).eq_of_length_le hlength
    rw [trim, hleft] at h
    exact ⟨hleft, h⟩
  · rintro ⟨hleft, hright⟩
    rw [trim, hleft, hright]

/-! ## The characters that are written -/

/-- A digit of an escape. -/
def isEscapeDigit (c : Char) : Bool := ('0' ≤ c && c ≤ '9') || ('A' ≤ c && c ≤ 'F')

theorem isEscapeDigit_toUpper_hexDigit : ∀ n < 16, isEscapeDigit (hexDigit n).toUpper = true := by decide

theorem of_mem_escapeByte {b : UInt8} {c : Char} (h : c ∈ escapeByte b) :
    c = '%' ∨ isEscapeDigit c = true := by
  simp only [escapeByte, List.mem_cons, List.not_mem_nil, or_false] at h
  rcases h with rfl | rfl | rfl
  · exact .inl rfl
  · exact .inr (isEscapeDigit_toUpper_hexDigit _ (by have := b.toNat_lt; omega))
  · exact .inr (isEscapeDigit_toUpper_hexDigit _ (Nat.mod_lt _ (by decide)))

/-- A character that is written is the sign of an escape or a digit of one, or it is plain. -/
theorem of_mem_encodePercent {cs : List Char} {c : Char} (h : c ∈ encodePercent escaped cs) :
    c = '%' ∨ isEscapeDigit c = true ∨ isPlain escaped c = true := by
  obtain ⟨d, -, hd⟩ := List.mem_flatMap.mp h
  unfold encodePercentChar at hd
  split at hd
  next hplain =>
    rw [List.mem_singleton.mp hd]
    exact .inr (.inr hplain)
  next =>
    obtain ⟨b, -, hc⟩ := List.mem_flatMap.mp hd
    exact (of_mem_escapeByte hc).imp_right .inl

theorem isBlank_of_isEscapeDigit {c : Char} (h : isEscapeDigit c = true) : isBlank c = false := by
  simp only [isEscapeDigit, Bool.or_eq_true, Bool.and_eq_true, decide_eq_true_eq] at h
  rcases h with h | h
  · exact isBlank_of_visible (Char.le_trans (by decide) h.1) (Char.le_trans h.2 (by decide))
  · exact isBlank_of_visible (Char.le_trans (by decide) h.1) (Char.le_trans h.2 (by decide))

theorem trim_of_no_blank {cs : List Char} (h : ∀ c ∈ cs, isBlank c = false) : trim cs = cs :=
  trim_eq_self_iff.mpr ⟨fun c hc => h c (List.mem_of_head? hc), fun c hc => h c (List.mem_of_getLast? hc)⟩

/-- An escaped character is not written, unless escapes are made of it. -/
theorem not_mem_encodePercent {c : Char} (hescaped : escaped c = true) (hpercent : c ≠ '%')
    (hdigit : isEscapeDigit c = false) (cs : List Char) : c ∉ encodePercent escaped cs := by
  intro hm
  rcases of_mem_encodePercent hm with h | h | h
  · exact hpercent h
  · rw [hdigit] at h
    cases h
  · rw [isPlain, hescaped, Bool.not_true, Bool.and_false] at h
    cases h

/-- There is nothing to trim where the blanks of ASCII are escaped. -/
theorem trim_encodePercent (hescaped : ∀ c, c.toNat < 128 → isBlank c = true → escaped c = true)
    (cs : List Char) : trim (encodePercent escaped cs) = encodePercent escaped cs := by
  refine trim_of_no_blank fun c hc => ?_
  rcases of_mem_encodePercent hc with rfl | h | h
  · decide
  · exact isBlank_of_isEscapeDigit h
  · simp only [isPlain, Bool.and_eq_true, decide_eq_true_eq, Bool.not_eq_true'] at h
    by_contra hblank
    rw [Bool.not_eq_false] at hblank
    rw [hescaped c h.1 hblank] at h
    exact Bool.noConfusion h.2

end Telemetry.Text
