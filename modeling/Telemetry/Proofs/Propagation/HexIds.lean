import Telemetry.Proofs.Propagation.ByteOrder
import Telemetry.Proofs.Propagation.JaegerHeaders

/-!
# Ids are read as they are shown

Headers hold ids in hexadecimal.  An id is shown with the digits of its number in lower case, behind as
many zeros as its width asks for.  Readers are less strict, in that they take digits of either case and
some of them take fewer digits, and otherwise the text is what is shown of the id (`HexCodec`).

A number is read digit by digit in words of a fixed size.  A text that is not longer than the width has
four bits for each of its digits, so no digit ever pushes another one out (`readHexIn?_eq_some`).

What a reader takes is looked at byte by byte, and here character by character.  This is the same, since
a character that is no digit has a byte that is none (`hexText_iff_bytes`).
-/

namespace Telemetry

namespace Text

/-! ## Texts of digits -/

/-- The digits of hexadecimal numbers, of either case. -/
def hexDigits : List Char :=
  ['0', '1', '2', '3', '4', '5', '6', '7', '8', '9', 'a', 'b', 'c', 'd', 'e', 'f', 'A', 'B', 'C', 'D', 'E', 'F']

/-- A text of hexadecimal digits and nothing else, of one of the given lengths. -/
def HexText (lengths : Nat → Prop) (text : List Char) : Prop :=
  lengths text.length ∧ ∀ c ∈ text, c ∈ hexDigits

theorem toNat_lt_of_mem_hexDigits {c : Char} (h : c ∈ hexDigits) : c.toNat < 128 := by
  have hall : hexDigits.all (fun c => c.toNat < 128) = true := by decide
  exact of_decide_eq_true (List.all_eq_true.mp hall c h)

theorem isHex_iff_mem {c : Char} : isHex c = true ↔ c ∈ hexDigits := by
  have hall : hexDigits.all isHex = true := by decide
  refine ⟨fun h => ?_, List.all_eq_true.mp hall c⟩
  have hbound : c.toNat < 128 := by
    unfold isHex hexValue? at h
    split_ifs at h with hdigit hlower hcapital
    · exact Nat.lt_of_le_of_lt (UInt32.le_iff_toNat_le.mp hdigit.2) (by decide)
    · exact Nat.lt_of_le_of_lt (UInt32.le_iff_toNat_le.mp hlower.2) (by decide)
    · exact Nat.lt_of_le_of_lt (UInt32.le_iff_toNat_le.mp hcapital.2) (by decide)
    · cases h
  have hascii : ∀ n < 128, isHex (Char.ofNat n) = true → Char.ofNat n ∈ hexDigits := by decide
  rw [← Char.ofNat_toNat c] at h ⊢
  exact hascii _ hbound h

theorem ofNat_byte_ascii {c : Char} (h : c.toNat < 128) : Char.ofNat (UInt8.ofNat c.toNat).toNat = c := by
  rw [toNat_ofNat_of_lt (Nat.lt_trans h (by decide)), Char.ofNat_toNat]

theorem encodeUtf8_ascii {cs : List Char} (h : ∀ c ∈ cs, c.toNat < 128) :
    encodeUtf8 cs = cs.map fun c => UInt8.ofNat c.toNat := by
  induction cs with
  | nil => rfl
  | cons c cs ih =>
    obtain ⟨hc, hcs⟩ := List.forall_mem_cons.mp h
    rw [encodeUtf8, List.flatMap_cons, utf8EncodeChar_ascii hc, ← encodeUtf8, ih hcs, List.map_cons,
      List.singleton_append]

theorem byteLength_ascii {cs : List Char} (h : ∀ c ∈ cs, c.toNat < 128) : byteLength cs = cs.length := by
  rw [← length_encodeUtf8, encodeUtf8_ascii h, List.length_map]

/-- The first byte of a character that is not ASCII is not ASCII either. -/
theorem le_lead {v : Nat} (h : 128 ≤ v) : 128 ≤ lead v := by
  unfold lead trailingCount
  grind [leadMark]

theorem mem_hexDigits_of_bytes {c : Char} (h : ∀ b ∈ String.utf8EncodeChar c, Char.ofNat b.toNat ∈ hexDigits) :
    c ∈ hexDigits := by
  by_cases hc : c.toNat < 128
  · rw [utf8EncodeChar_ascii hc] at h
    exact ofNat_byte_ascii hc ▸ h _ (List.mem_singleton_self _)
  · have hbytes : ∀ n < 256, Char.ofNat n ∈ hexDigits → n < 128 := by decide +kernel
    have hlead := lead_lt_size (charCode_lt c)
    rw [utf8EncodeChar_eq] at h
    have hfirst := h _ List.mem_cons_self
    rw [toNat_ofNat_of_lt hlead] at hfirst
    exact absurd (hbytes _ hlead hfirst) (Nat.not_lt.mpr (le_lead (Nat.le_of_not_lt hc)))

/-- A text of digits is one of bytes that are digits, and it has as many bytes as characters. -/
theorem hexText_iff_bytes {lengths : Nat → Prop} {text : List Char} : HexText lengths text ↔
    lengths (byteLength text) ∧ ∀ b ∈ encodeUtf8 text, Char.ofNat b.toNat ∈ hexDigits := by
  constructor
  · rintro ⟨hlength, hdigits⟩
    have hascii : ∀ c ∈ text, c.toNat < 128 := fun c hc => toNat_lt_of_mem_hexDigits (hdigits c hc)
    rw [byteLength_ascii hascii, encodeUtf8_ascii hascii]
    exact ⟨hlength, List.forall_mem_map.mpr fun c hc => (ofNat_byte_ascii (hascii c hc)).symm ▸ hdigits c hc⟩
  · rintro ⟨hlength, hbytes⟩
    have hdigits : ∀ c ∈ text, c ∈ hexDigits := fun c hc =>
      mem_hexDigits_of_bytes fun b hb => hbytes b (List.mem_flatMap.mpr ⟨c, hc, hb⟩)
    rw [byteLength_ascii fun c hc => toNat_lt_of_mem_hexDigits (hdigits c hc)] at hlength
    exact ⟨hlength, hdigits⟩

theorem hexText_iff_all {lengths : Nat → Prop} {text : List Char} :
    HexText lengths text ↔ lengths text.length ∧ text.all isHex = true := by
  simp only [HexText, List.all_eq_true, isHex_iff_mem]

theorem HexText.isHex {lengths : Nat → Prop} {text : List Char} (h : HexText lengths text) :
    ∀ c ∈ text, isHex c = true := fun c hc => isHex_iff_mem.mpr (h.2 c hc)

theorem HexText.spellsHex {lengths : Nat → Prop} {text : List Char} (h : HexText lengths text)
    (hpos : 0 < text.length) : SpellsHex text (readHex text) :=
  spellsHex_iff.mpr ⟨List.ne_nil_of_length_pos hpos, h.isHex, rfl⟩

/-! ## Zeros in front -/

theorem readHex_replicate_append (k : Nat) (cs : List Char) :
    readHex (List.replicate k '0' ++ cs) = readHex cs := by
  induction k with
  | zero => rfl
  | succ k ih => exact ih

/-- A number that is read from a text is written with the digits of the text, in lower case and behind zeros. -/
theorem writeHex_readHex_leftpad {width : Nat} {cs : List Char} (h : ∀ c ∈ cs, isHex c = true)
    (hlength : cs.length ≤ width) : writeHex width (readHex cs) = (cs.map Char.toLower).leftpad width '0' := by
  have hlower : ∀ c ∈ (cs.map Char.toLower).leftpad width '0', isLowerHex c = true := by
    rw [List.leftpad, List.forall_mem_append, List.forall_mem_map]
    exact ⟨fun c hc => List.eq_of_mem_replicate hc ▸ rfl, fun c hc => isLowerHex_toLower (h c hc)⟩
  have hwritten := writeHex_readHex hlower
  rwa [List.length_leftpad, List.length_map, Nat.max_eq_left hlength, List.leftpad,
    readHex_replicate_append, readHex_map_toLower] at hwritten

theorem writeHex_zero (width : Nat) : writeHex width 0 = List.replicate width '0' := by
  induction width with
  | zero => rfl
  | succ width ih =>
    rw [writeHex, Nat.zero_div, ih, List.replicate_succ']
    rfl

/-- A number that fits its width is written with the digits it has, behind zeros. -/
theorem writeHex_eq_leftpad {width n : Nat} (hwidth : 0 < width) (h : n < Nat.pow 16 width) :
    writeHex width n = (Nat.toDigits 16 n).leftpad width '0' := by
  induction width generalizing n with
  | zero => cases hwidth
  | succ width ih =>
    rw [writeHex, Nat.toDigits_eq_if (by decide)]
    split
    next hone =>
      rw [Nat.div_eq_of_lt hone, Nat.mod_eq_of_lt hone, writeHex_zero]
      rfl
    next hmore =>
      have hdiv : n / 16 < Nat.pow 16 width := (Nat.div_lt_iff_lt_mul (by decide)).mpr h
      have hwidth : 0 < width := Nat.pos_of_ne_zero fun hzero => hmore (by simpa [hzero] using h)
      rw [ih hwidth hdiv, List.leftpad, List.leftpad, List.length_append, List.length_singleton,
        Nat.add_sub_add_right, List.append_assoc]
      rfl

/-! ## Words -/

/-- A word with one more digit behind its digits, if there is room for it. -/
def pushHexIn? {bits : Nat} (n : BitVec bits) (c : Char) : Option (BitVec bits) := do
  let v ← hexValue? c
  guard (n.toNat * 16 + v < 2 ^ bits)
  return BitVec.ofNat bits (n.toNat * 16 + v)

/-- The number that digits write, read in words of so many bits. -/
def readHexIn? (bits : Nat) (cs : List Char) : Option (BitVec bits) := cs.foldlM pushHexIn? 0

theorem readHexIn?_eq_some {bits : Nat} {cs : List Char} (h : ∀ c ∈ cs, isHex c = true)
    (hroom : readHex cs < 2 ^ bits) : readHexIn? bits cs = some (BitVec.ofNat bits (readHex cs)) := by
  induction cs using List.reverseRecOn with
  | nil => rfl
  | append_singleton cs c ih =>
    obtain ⟨hcs, hc⟩ := List.forall_mem_append.mp h
    obtain ⟨v, hv⟩ := Option.isSome_iff_exists.mp (hc c (List.mem_singleton_self c))
    have hread : readHex (cs ++ [c]) = readHex cs * 16 + v := by
      rw [readHex, List.foldl_append, List.foldl_cons, List.foldl_nil, pushHex, hv, readHex, Option.getD_some]
    rw [hread] at hroom ⊢
    -- the number so far is no greater than the one with the digit behind it
    have hfront : readHex cs < 2 ^ bits := by omega
    have hword : (BitVec.ofNat bits (readHex cs)).toNat = readHex cs := Nat.mod_eq_of_lt hfront
    rw [readHexIn?, List.foldlM_append, ← readHexIn?, ih hcs hfront]
    simp [pushHexIn?, hv, hword, hroom]

end Text

/-! ## Ids -/

/-- What ties a reader of ids, which takes texts of the given lengths, to how ids of a width are shown. -/
structure HexCodec {α : Type} (width : Nat) (lengths : Nat → Prop) (read? : List Char → Option α)
    (shown : α → String) (ofBits : BitVec (4 * width) → α) : Prop where
  /-- An id is shown with the digits of its number, behind zeros. -/
  shown_digits : ∀ b, (shown (ofBits b)).toList = (Nat.toDigits 16 b.toNat).leftpad width '0'
  /-- What is shown of an id is read as this id. -/
  reads_shown : ∀ b, read? (shown (ofBits b)).toList = some (ofBits b)
  /-- Digits are read in words that have room for all of them, and the id that they give is shown with
  them, in lower case and behind zeros. -/
  reads_digits : ∀ text, Text.HexText lengths text → ∃ b : BitVec (4 * width),
    Text.readHexIn? (4 * width) text = some b ∧ read? text = some (ofBits b) ∧
      (shown (ofBits b)).toList = (text.map Char.toLower).leftpad width '0'
  /-- No other text is read. -/
  refuses : ∀ text, ¬ Text.HexText lengths text → read? text = none

/-- It is enough that a reader takes the number of the digits, where these fit the width. -/
theorem HexCodec.of_reads {α : Type} {width : Nat} {lengths : Nat → Prop} {read? : List Char → Option α}
    {shown : α → String} {ofBits : BitVec (4 * width) → α} (hwidth : 0 < width) (hwhole : lengths width)
    (hfits : ∀ n, lengths n → 0 < n ∧ n ≤ width)
    (hshown : ∀ b, (shown (ofBits b)).toList = Text.writeHex width b.toNat)
    (hreads : ∀ text, Text.HexText lengths text → read? text = some (ofBits (.ofNat _ (Text.readHex text))))
    (hrefuses : ∀ text, ¬ Text.HexText lengths text → read? text = none) :
    HexCodec width lengths read? shown ofBits := by
  have hlt (b : BitVec (4 * width)) : b.toNat < Nat.pow 16 width :=
    Nat.lt_of_lt_of_eq b.isLt (Nat.pow_mul 2 4 width)
  refine ⟨fun b => ?shown, fun b => ?whole, fun text htext => ?digits, hrefuses⟩
  case shown => rw [hshown, Text.writeHex_eq_leftpad hwidth (hlt b)]
  case whole =>
    have htext : Text.HexText lengths (Text.writeHex width b.toNat) :=
      Text.hexText_iff_all.mpr ⟨(Text.length_writeHex ..).symm ▸ hwhole, Text.all_isHex_writeHex ..⟩
    rw [hshown, hreads _ htext, Text.readHex_writeHex (hlt b), BitVec.ofNat_toNat, BitVec.setWidth_eq]
  case digits =>
    obtain ⟨hpos, hlength⟩ := hfits _ htext.1
    have hnumber : (BitVec.ofNat (4 * width) (Text.readHex text)).toNat = Text.readHex text :=
      Jaeger.toNat_ofNat_of_spellsHex (htext.spellsHex hpos) hlength
    refine ⟨_, Text.readHexIn?_eq_some htext.isHex (hnumber ▸ BitVec.isLt _), hreads text htext, ?_⟩
    rw [hshown, hnumber, Text.writeHex_readHex_leftpad htext.isHex hlength]

theorem TraceId.hexCodec (short : Bool) :
    HexCodec 32 (fun n => n = 32 ∨ short = true ∧ n = 16) (ofHex? short) text mk := by
  refine .of_reads (by decide) (.inl rfl) ?fits (fun _ => String.toList_ofList)
    (fun _ h => if_pos (Text.hexText_iff_all.mp h)) (fun _ h => if_neg (mt Text.hexText_iff_all.mpr h))
  rintro n (rfl | ⟨-, rfl⟩) <;> decide

theorem SpanId.hexCodec : HexCodec 16 (· = 16) ofHex? text mk := by
  refine .of_reads (by decide) rfl ?fits (fun _ => String.toList_ofList)
    (fun _ h => if_pos (Text.hexText_iff_all.mp h)) (fun _ h => if_neg (mt Text.hexText_iff_all.mpr h))
  rintro n rfl
  decide

namespace Jaeger

theorem hexCodec {most : Nat} (hpos : 0 < most) : HexCodec most (fun n => 1 ≤ n ∧ n ≤ most) (readId? most)
    (fun n => String.ofList (Text.writeHex most n)) BitVec.toNat := by
  refine .of_reads hpos ⟨hpos, Nat.le_refl most⟩ (fun _ h => h) (fun _ => String.toList_ofList) ?reads ?refuses
  case reads =>
    intro text h
    obtain ⟨hlow, hhigh⟩ := h.1
    rw [toNat_ofNat_of_spellsHex (h.spellsHex hlow) hhigh, readId?_eq_some_iff]
    exact ⟨hhigh, h.spellsHex hlow⟩
  case refuses =>
    refine fun text h => Option.eq_none_iff_forall_ne_some.mpr fun n hn => h ?_
    obtain ⟨hlength, hspells⟩ := readId?_eq_some_iff.mp hn
    exact ⟨⟨List.length_pos_iff.mpr hspells.ne_nil, hlength⟩, fun c hc => Text.isHex_iff_mem.mp (hspells.isHex c hc)⟩

/-- Ids of any length are read in words of 128 bits, and those of fewer digits may be kept in fewer bits. -/
theorem readHexIn?_of_readId? {most n : Nat} {text : List Char} (hmost : most ≤ 32)
    (h : readId? most text = some n) :
    Text.readHexIn? 128 text = some (.ofNat 128 n) ∧ (BitVec.ofNat (4 * most) n).toNat = n := by
  obtain ⟨hlength, hspells⟩ := readId?_eq_some_iff.mp h
  have hroom : (BitVec.ofNat 128 n).toNat = n :=
    toNat_ofNat_of_spellsHex hspells (Nat.le_trans hlength hmost)
  obtain ⟨-, hhex, rfl⟩ := Text.spellsHex_iff.mp hspells
  exact ⟨Text.readHexIn?_eq_some hhex (hroom ▸ BitVec.isLt _), toNat_ofNat_of_spellsHex hspells hlength⟩

end Jaeger

/-- Trace ids, short ones or not, span ids, and the ids of Jaeger headers, which are shown as trace ids of 32
digits or span ids of 16, are read as they are shown.  Words of four bits for each digit of the width have
room for them, and those of Jaeger headers are first read in words of 128 bits, of which this much is kept.
To look at the bytes of a text is the same as to look at its characters. -/
theorem ids_read_as_shown :
    (∀ short, HexCodec 32 (fun n => n = 32 ∨ short = true ∧ n = 16)
      (TraceId.ofHex? short) TraceId.text TraceId.mk) ∧
    HexCodec 16 (· = 16) SpanId.ofHex? SpanId.text SpanId.mk ∧
    (∀ most, 0 < most → most ≤ 32 →
      HexCodec most (fun n => 1 ≤ n ∧ n ≤ most)
        (Jaeger.readId? most) (fun n => String.ofList (Text.writeHex most n)) BitVec.toNat ∧
      ∀ text n, Jaeger.readId? most text = some n →
        Text.readHexIn? 128 text = some (.ofNat 128 n) ∧ (BitVec.ofNat (4 * most) n).toNat = n) ∧
    ∀ (lengths : Nat → Prop) (text : List Char), Text.HexText lengths text ↔
      lengths (Text.byteLength text) ∧ ∀ b ∈ Text.encodeUtf8 text, Char.ofNat b.toNat ∈ Text.hexDigits := by
  refine ⟨TraceId.hexCodec, SpanId.hexCodec, ?jaeger, fun _ _ => Text.hexText_iff_bytes⟩
  case jaeger => exact fun most hpos hmost => ⟨Jaeger.hexCodec hpos, fun _ _ => Jaeger.readHexIn?_of_readId? hmost⟩

/-- A short trace id with digits of either case, a sign, and an id of two digits. -/
theorem ids_read_as_shown_of_mixed_case :
    ∃ (t : TraceId) (n : Nat), TraceId.ofHex? true "4bF92f3577B34dA6".toList = some t ∧
      t.text.toList = "00000000000000004bf92f3577b34da6".toList ∧
      SpanId.ofHex? "+0f067aa0ba902b7".toList = none ∧
      Jaeger.readId? 16 "aB".toList = some n ∧ Text.readHexIn? 128 "aB".toList = some (.ofNat 128 n) ∧
      Text.writeHex 16 n = "00000000000000ab".toList := by
  obtain ⟨htrace, hspan, hjaeger, -⟩ := ids_read_as_shown
  obtain ⟨hcodec, hwords⟩ := hjaeger 16 (by decide) (by decide)
  obtain ⟨t, -, hread, hshown⟩ := (htrace true).reads_digits "4bF92f3577B34dA6".toList
    (Text.hexText_iff_all.mpr ⟨.inr ⟨rfl, rfl⟩, by decide⟩)
  obtain ⟨b, -, hid, hlower⟩ := hcodec.reads_digits "aB".toList (Text.hexText_iff_all.mpr ⟨by decide, by decide⟩)
  have hsign : ¬ Text.HexText (· = 16) "+0f067aa0ba902b7".toList :=
    fun h => absurd (h.2 '+' (by decide)) (by decide)
  refine ⟨⟨t⟩, b.toNat, hread, hshown, hspan.refuses _ hsign, hid, (hwords _ _ hid).1, ?_⟩
  exact String.toList_ofList.symm.trans hlower

end Telemetry
