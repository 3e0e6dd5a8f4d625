import Mathlib.Data.List.DropRight
import Mathlib.Data.Option.Basic
import Telemetry.Propagation.Propagator

/-!
# What is written is read back

A span context that one service writes is what the next one reads, as far as its format goes: the ids
are the same, of the flags there is the sampled bit, and the trace state is in the trace context
headers only.

Ids and flags are written in hexadecimal with a fixed width, so that nothing is cut off and none of
the separators of a format occurs in them.  The header of a trace state is the only one that is made
of texts of others.  What such a state was read from need not be what it writes, but reading what it
writes gives it back.
-/

namespace Telemetry

/-! ## Digits -/

namespace Text

theorem not_mem_writeHex {c : Char} {width n : Nat} (h : isLowerHex c = false) :
    c ∉ writeHex width n := by
  intro hm
  rw [isLowerHex_of_mem_writeHex hm] at h
  cases h

theorem all_isLowerHex_writeHex (width n : Nat) : (writeHex width n).all isLowerHex = true :=
  List.all_eq_true.mpr fun _ hc => isLowerHex_of_mem_writeHex hc

theorem all_isHex_writeHex (width n : Nat) : (writeHex width n).all isHex = true :=
  List.all_eq_true.mpr fun _ hc => isHex_of_isLowerHex (isLowerHex_of_mem_writeHex hc)

end Text

theorem TraceId.readHex_digits (t : TraceId) : Text.readHex t.digits = t.value.toNat :=
  Text.readHex_writeHex t.value.isLt

theorem SpanId.readHex_digits (s : SpanId) : Text.readHex s.digits = s.value.toNat :=
  Text.readHex_writeHex s.value.isLt

theorem TraceFlags.readHex_writeHex (f : TraceFlags) :
    Text.readHex (Text.writeHex 2 f.byte.toNat) = f.byte.toNat :=
  Text.readHex_writeHex f.byte.isLt

@[simp] theorem TraceId.ofHex?_digits (short : Bool) (t : TraceId) : ofHex? short t.digits = some t := by
  have hall : t.digits.all Text.isHex = true := Text.all_isHex_writeHex ..
  have hlen : t.digits.length = 32 := Text.length_writeHex ..
  rw [ofHex?, if_pos ⟨.inl hlen, hall⟩, t.readHex_digits, BitVec.ofNat_toNat, BitVec.setWidth_eq]

@[simp] theorem SpanId.ofHex?_digits (s : SpanId) : ofHex? s.digits = some s := by
  have hall : s.digits.all Text.isHex = true := Text.all_isHex_writeHex ..
  have hlen : s.digits.length = 16 := Text.length_writeHex ..
  rw [ofHex?, if_pos ⟨hlen, hall⟩, s.readHex_digits, BitVec.ofNat_toNat, BitVec.setWidth_eq]

/-! ## Trace context -/

namespace TraceParent

theorem lowerHex?_writeHex (width n : Nat) (rest : List Char) :
    lowerHex? width (Text.writeHex width n ++ rest) = some (Text.writeHex width n, rest) := by
  have hlen := Text.length_writeHex width n
  rw [lowerHex?, List.take_left' hlen, List.drop_left' hlen,
    if_pos ⟨hlen, Text.all_isLowerHex_writeHex ..⟩]

theorem ofHeader?_write (s : SpanContext) : Parts.ofHeader? (write s) =
    some ⟨['0', '0'], s.traceId.digits, s.spanId.digits, Text.writeHex 2 s.flags.byte.toNat, []⟩ := by
  have hbegin : Text.trimLeft (write s) = Text.writeHex 2 0 ++ '-' :: (s.traceId.digits ++
      '-' :: (s.spanId.digits ++ '-' :: (Text.writeHex 2 s.flags.byte.toNat ++ []))) := by
    simp only [write, List.append_assoc, List.cons_append, List.nil_append, List.append_nil]
    exact Text.trimLeft_cons_of_not_blank (by decide)
  rw [Parts.ofHeader?, hbegin, lowerHex?_writeHex]
  simp only [Option.bind_eq_bind, Option.bind_some, dash?, TraceId.digits, SpanId.digits,
    lowerHex?_writeHex]
  rfl

/-- The trace context headers give back all of a span context, with only the sampled flag. -/
theorem read?_write {s : SpanContext} (hv : s.isValid = true) (state : TraceState) :
    read? (write s) state = some ⟨s.traceId, s.spanId, s.flags.masked, true, state⟩ := by
  have hv : s.traceId.isValid && s.spanId.isValid := hv
  have hflags : BitVec.ofNat 8 (Text.readHex (Text.writeHex 2 s.flags.byte.toNat)) = s.flags.byte := by
    rw [s.flags.readHex_writeHex, BitVec.ofNat_toNat, BitVec.setWidth_eq]
  simp only [read?, ofHeader?_write, Option.bind_eq_bind, Option.bind_some, TraceId.ofHex?_digits,
    SpanId.ofHex?_digits]
  rw [hv, hflags]
  rfl

end TraceParent

/-! ## B3 -/

namespace B3

theorem saysSampled_stateText (s : SpanContext) : saysSampled (stateText s) = s.isSampled := by
  unfold stateText
  cases s.isSampled <;> decide

/-- Two ids are read with whatever sampling decision stands beside them. -/
theorem build?_eq_some {trace span : List Char} {t : TraceId} {s : SpanId}
    (htrace : TraceId.ofHex? true trace = some t) (hspan : SpanId.ofHex? span = some s)
    (hv : (t.isValid && s.isValid) = true) (sampled : Bool) :
    build? trace span sampled = some (.newRemote t s (if sampled then .sampled else .none)) := by
  have hflags : TraceFlags.none.withSampled sampled = if sampled then .sampled else .none := by
    cases sampled <;> decide
  simp only [build?, htrace, hspan, Option.bind_eq_bind, Option.bind_some]
  rw [hv, hflags]
  rfl

theorem build?_digits {s : SpanContext} (hv : s.isValid = true) (sampled : Bool) :
    build? s.traceId.digits s.spanId.digits sampled =
      some (.newRemote s.traceId s.spanId (if sampled then .sampled else .none)) :=
  build?_eq_some (TraceId.ofHex?_digits ..) (SpanId.ofHex?_digits ..) hv sampled

/-- The single header gives back the ids and the sampled flag. -/
theorem readSingle?_writeSingle {s : SpanContext} (hv : s.isValid = true) :
    readSingle? (writeSingle s) = some (.newRemote s.traceId s.spanId s.flags.masked) := by
  have htrace : '-' ∉ s.traceId.digits := Text.not_mem_writeHex (by decide)
  have hspan : '-' ∉ s.spanId.digits := Text.not_mem_writeHex (by decide)
  have hstate : '-' ∉ (stateText s).toList := by
    unfold stateText
    cases s.isSampled <;> decide
  have hfields : Text.fields '-' (writeSingle s) =
      [s.traceId.digits, s.spanId.digits, (stateText s).toList] := by
    rw [writeSingle, List.append_assoc, List.cons_append, Text.fields_append_cons htrace,
      Text.fields_append_cons hspan, Text.fields_of_not_mem hstate]
  rw [readSingle?, hfields]
  simp only [String.ofList_toList, saysSampled_stateText, build?_digits hv, TraceFlags.masked_eq]
  rfl

/-- So do the multiple headers, but for the debug flag, which no one writes. -/
theorem readMultiple?_of_flags {γ : Type} [HeaderSource γ] {c : γ} {s : SpanContext}
    (hv : s.isValid = true) (htrace : HeaderSource.get? c traceName = some s.traceId.text)
    (hspan : HeaderSource.get? c spanName = some s.spanId.text)
    (hsampled : HeaderSource.get? c sampledName = some (stateText s)) :
    readMultiple? c = some (.newRemote s.traceId s.spanId
      (if s.isSampled || HeaderSource.get? c flagsName == some "1" then .sampled else .none)) := by
  simp only [readMultiple?, htrace, hspan, hsampled, Option.bind_eq_bind, Option.bind_some,
    Option.any_some, saysSampled_stateText, TraceId.text, SpanId.text, String.toList_ofList,
    build?_digits hv]

theorem readMultiple?_eq {γ : Type} [HeaderSource γ] {c : γ} {s : SpanContext} (hv : s.isValid = true)
    (htrace : HeaderSource.get? c traceName = some s.traceId.text)
    (hspan : HeaderSource.get? c spanName = some s.spanId.text)
    (hsampled : HeaderSource.get? c sampledName = some (stateText s))
    (hdebug : HeaderSource.get? c flagsName = none) :
    readMultiple? c = some (.newRemote s.traceId s.spanId s.flags.masked) := by
  have hno : (s.isSampled || (none : Option String) == some "1") = s.flags.isSampled := Bool.or_false _
  rw [readMultiple?_of_flags hv htrace hspan hsampled, hdebug, hno, TraceFlags.masked_eq]

end B3

/-! ## Jaeger -/

namespace Text

/-- A character that stands for itself where escapes are read. -/
def isBare (c : Char) : Bool := c.toNat < 128 && c != '%'

theorem percentBytes_bare {c : Char} (hc : c ≠ '%') (cs : List Char) :
    percentBytes (c :: cs) = String.utf8EncodeChar c ++ percentBytes cs := by
  rw [percentBytes.eq_def]
  split <;> simp_all

theorem utf8EncodeChar_ascii {c : Char} (h : c.toNat < 128) :
    String.utf8EncodeChar c = [UInt8.ofNat c.toNat] := if_pos (Nat.le_of_lt_succ h)

theorem decodePercent_cons_bare {c : Char} (h : isBare c = true) (cs : List Char) :
    decodePercent (c :: cs) = c :: decodePercent cs := by
  simp only [isBare, Bool.and_eq_true, decide_eq_true_eq, bne_iff_ne] at h
  obtain ⟨hlt, hne⟩ := h
  have hbyte : (UInt8.ofNat c.toNat).toNat = c.toNat := by
    rw [UInt8.toNat_ofNat']
    exact Nat.mod_eq_of_lt (Nat.lt_trans hlt (by decide))
  rw [decodePercent, decodeLossy, percentBytes_bare hne, utf8EncodeChar_ascii hlt, List.singleton_append,
    decodeFrom, readByte, hbyte, readLead, if_pos hlt, Char.ofNat_toNat]
  rfl

/-- A text without escapes is read as it is. -/
theorem decodePercent_bare {cs : List Char} (h : cs.all isBare = true) : decodePercent cs = cs := by
  induction cs with
  | nil => rfl
  | cons c cs ih =>
      rw [List.all_cons, Bool.and_eq_true] at h
      rw [decodePercent_cons_bare h.1, ih h.2]

theorem isBare_of_isLowerHex {c : Char} (h : isLowerHex c = true) : isBare c = true := by
  simp only [isLowerHex, Bool.or_eq_true, Bool.and_eq_true, decide_eq_true_eq] at h
  have hlt : c.toNat < 128 := by
    rcases h with h | h
    · exact Nat.lt_of_le_of_lt (UInt32.le_iff_toNat_le.mp h.2) (by decide)
    · exact Nat.lt_of_le_of_lt (UInt32.le_iff_toNat_le.mp h.2) (by decide)
  have hne : c ≠ '%' := by
    rintro rfl
    revert h
    decide
  rw [isBare, Bool.and_eq_true, decide_eq_true_eq, bne_iff_ne]
  exact ⟨hlt, hne⟩

theorem all_isBare_writeHex (width n : Nat) : (writeHex width n).all isBare = true :=
  List.all_eq_true.mpr fun _ hc => isBare_of_isLowerHex (isLowerHex_of_mem_writeHex hc)

theorem all_join {allowed : Char → Bool} {sep : Char} (hsep : allowed sep = true) :
    ∀ {fs : List (List Char)}, (∀ f ∈ fs, f.all allowed = true) → (join sep fs).all allowed = true
  | [], _ => rfl
  | [f], h => h f List.mem_cons_self
  | f :: g :: fs, h => by
      rw [join_cons_of_ne_nil _ _ (List.cons_ne_nil g fs), List.all_append, List.all_cons,
        h f List.mem_cons_self, hsep, all_join hsep fun x hx => h x (List.mem_cons_of_mem _ hx)]
      rfl

/-- Digits are read to a number without a sign or a limit in the way. -/
theorem readDigits?_hex {cs : List Char} (h : cs.all isHex = true) (n : Nat) :
    cs.foldlM (fun n c => (hexValue? c).map (n * 16 + ·)) n = some (cs.foldl pushHex n) := by
  induction cs generalizing n with
  | nil => rfl
  | cons c cs ih =>
      rw [List.all_cons, Bool.and_eq_true] at h
      obtain ⟨v, hv⟩ := Option.isSome_iff_exists.mp h.1
      rw [List.foldlM_cons, List.foldl_cons, hv, pushHex, hv]
      exact ih h.2 _

theorem readHexByte?_writeHex {n : Nat} (h : n ≤ 255) : readHexByte? (writeHex 2 n) = some n := by
  have hplus : dropPlus (writeHex 2 n) = writeHex 2 n := by
    unfold dropPlus
    split
    next cs hc =>
      have hm : '+' ∈ writeHex 2 n := hc ▸ List.mem_cons_self
      exact absurd hm (not_mem_writeHex (by decide))
    next => rfl
  have hread : readDigits? hexValue? 16 (writeHex 2 n) = some n :=
    (readDigits?_hex (all_isHex_writeHex 2 n) 0).trans
      (congrArg some (readHex_writeHex (Nat.lt_succ_of_le h)))
  have hne : (writeHex 2 n).isEmpty = false := rfl
  rw [readHexByte?, readUnsigned?, hplus, hread, hne]
  simpa using h

end Text

namespace Jaeger

theorem readId?_writeHex {width n : Nat} (hw : 0 < width) (h : n < Nat.pow 16 width) :
    readId? width (Text.writeHex width n) = some n := by
  have hne : (Text.writeHex width n).isEmpty = false := by
    rw [List.isEmpty_eq_false_iff, ← List.length_pos_iff, Text.length_writeHex]
    exact hw
  rw [readId?, hne, Text.length_writeHex, Text.all_isHex_writeHex, Text.readHex_writeHex h]
  simp

/-- The debug bit is not read. -/
theorem masked_sentFlags (f : TraceFlags) : (sentFlags f).masked = f.masked := by
  obtain ⟨b⟩ := f
  revert b
  decide +kernel

/-- The header gives back the ids and the sampled flag. -/
theorem read?_write {s : SpanContext} (hv : s.isValid = true) :
    read? (write s) = some (.newRemote s.traceId s.spanId s.flags.masked) := by
  have hv : s.traceId.isValid && s.spanId.isValid := hv
  have hparts : ∀ f ∈ [s.traceId.digits, s.spanId.digits, SpanId.invalid.digits,
      Text.writeHex 2 (sentFlags s.flags).byte.toNat], ∃ width n, f = Text.writeHex width n := by
    simp only [List.forall_mem_cons, List.not_mem_nil, false_imp_iff, implies_true, and_true]
    exact ⟨⟨_, _, rfl⟩, ⟨_, _, rfl⟩, ⟨_, _, rfl⟩, ⟨_, _, rfl⟩⟩
  have hbare : (write s).all Text.isBare = true := by
    refine Text.all_join (by decide) fun f hf => ?_
    obtain ⟨width, n, rfl⟩ := hparts f hf
    exact Text.all_isBare_writeHex width n
  have hfields : Text.fields ':' (write s) = [s.traceId.digits, s.spanId.digits,
      SpanId.invalid.digits, Text.writeHex 2 (sentFlags s.flags).byte.toNat] := by
    refine Text.fields_join (List.cons_ne_nil _ _) fun f hf => ?_
    obtain ⟨width, n, rfl⟩ := hparts f hf
    exact Text.not_mem_writeHex (by decide)
  have hflags : Text.readHexByte? (Text.writeHex 2 (sentFlags s.flags).byte.toNat) =
      some (sentFlags s.flags).byte.toNat :=
    Text.readHexByte?_writeHex (Nat.le_of_lt_succ (sentFlags s.flags).byte.isLt)
  have htrace : readId? 32 s.traceId.digits = some s.traceId.value.toNat :=
    readId?_writeHex (by decide) s.traceId.value.isLt
  have hspan : readId? 16 s.spanId.digits = some s.spanId.value.toNat :=
    readId?_writeHex (by decide) s.spanId.value.isLt
  have htraceId : TraceId.mk (BitVec.ofNat 128 s.traceId.value.toNat) = s.traceId := by
    rw [BitVec.ofNat_toNat, BitVec.setWidth_eq]
  have hspanId : SpanId.mk (BitVec.ofNat 64 s.spanId.value.toNat) = s.spanId := by
    rw [BitVec.ofNat_toNat, BitVec.setWidth_eq]
  have hbyte : TraceFlags.mk (BitVec.ofNat 8 (sentFlags s.flags).byte.toNat) = sentFlags s.flags := by
    rw [BitVec.ofNat_toNat, BitVec.setWidth_eq]
  rw [read?, Text.decodePercent_bare hbare, hfields]
  simp only [htrace, hspan, hflags, Option.bind_eq_bind, Option.bind_some]
  rw [htraceId, hspanId, hbyte, masked_sentFlags, hv]
  rfl

end Jaeger

/-! ## Trace states -/

theorem Text.trim_trim (cs : List Char) : trim (trim cs) = trim cs := by
  have hright : ∀ l, trimRight (trimRight l) = trimRight l := List.rdropWhile_idempotent isBlank
  have hleft : trimLeft (trim cs) = trim cs := by
    cases ht : trim cs with
    | nil => rfl
    | cons c rest =>
        -- what stands first behind the blanks stays first when the end is trimmed
        obtain ⟨behind, hb⟩ : trim cs <+: trimLeft cs := List.rdropWhile_prefix isBlank _
        have hc : isBlank c = false := by
          have hhead := List.head?_dropWhile_not isBlank cs
          rw [ht] at hb
          rw [show cs.dropWhile isBlank = c :: (rest ++ behind) from hb.symm] at hhead
          exact hhead
        exact trimLeft_cons_of_not_blank hc
  rw [trim, hleft]
  exact hright _

namespace TraceState

theorem mem_written {header f : List Char} (h : f ∈ written header) :
    ',' ∉ f ∧ Text.trim f = f ∧ f ≠ [] := by
  obtain ⟨hm, hne⟩ := List.mem_filter.mp h
  obtain ⟨g, hg, rfl⟩ := List.mem_map.mp hm
  refine ⟨fun hc => ?_, Text.trim_trim g, by simpa using hne⟩
  exact Text.not_mem_of_mem_fields hg
    ((List.dropWhile_sublist _).subset ((List.rdropWhile_prefix _ _).sublist.subset hc))

/-- Members are found again in what joins them. -/
theorem written_join (header : List Char) :
    written (Text.join ',' (written header)) = written header := by
  by_cases hnil : written header = []
  · rw [hnil]
    decide
  · have hcomma : ∀ f ∈ written header, ',' ∉ f := fun f hf => (mem_written hf).1
    have htrim : (written header).map Text.trim = written header :=
      (List.map_congr_left fun f hf => (mem_written hf).2.1).trans (List.map_id _)
    have hkeep : (written header).filter (!·.isEmpty) = written header :=
      List.filter_eq_self.mpr fun f hf => by simpa using (mem_written hf).2.2
    rw [written, Text.fields_join hnil hcomma, htrim, hkeep]

theorem memberText_of_member? {f : List Char} {m : String × String} (h : member? f = some m) :
    memberText m = f := by
  obtain ⟨⟨key, value⟩, hcut, hm⟩ := Option.bind_eq_some_iff.mp h
  obtain ⟨-, hm⟩ := Option.ite_none_right_eq_some.mp hm
  rw [← Option.some.inj hm, memberText, String.toList_ofList, String.toList_ofList,
    (Text.cut_eq_some hcut).1]

theorem map_memberText {fs : List (List Char)} {ms : List (String × String)}
    (h : fs.mapM member? = some ms) : ms.map memberText = fs := by
  induction fs generalizing ms with
  | nil =>
      cases h
      rfl
  | cons f fs ih =>
      rw [List.mapM_cons] at h
      obtain ⟨m, hm, h⟩ := Option.bind_eq_some_iff.mp h
      obtain ⟨rest, hrest, h⟩ := Option.bind_eq_some_iff.mp h
      cases h
      rw [List.map_cons, memberText_of_member? hm, ih hrest]

/-- A state that was read from a header is read again from the header that it writes. -/
theorem ofHeader_header (header : String) :
    ofHeader (ofHeader header).header = ofHeader header := by
  cases hm : members? header.toList with
  | none =>
      have he : ofHeader header = empty := by rw [ofHeader, hm]; rfl
      rw [he]
      decide
  | some ms =>
      have he : ofHeader header = ⟨ms⟩ := by rw [ofHeader, hm]; rfl
      obtain ⟨hms, -⟩ := Option.filter_eq_some_iff.mp hm
      have hagain : members? (Text.join ',' (ms.map memberText)) = some ms := by
        rw [map_memberText hms, members?, written_join]
        exact hm
      rw [he, TraceState.header, ofHeader, String.toList_ofList, hagain]
      rfl

end TraceState

end Telemetry
