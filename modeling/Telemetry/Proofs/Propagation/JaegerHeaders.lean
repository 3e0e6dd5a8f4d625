import Telemetry.Proofs.Propagation.Overlay
import Telemetry.Proofs.Propagation.ParentHeaders

/-!
# The grammar of the Jaeger header

The header is percent encoded as a whole, so it is the decoded text that has four fields with colons
between them (`Parts.Spells`), and a colon may come from an escape.  What is said of numbers is said in
one way for all fields: a row of digits of either case spells a number if the digits, in lower case, are
those that the number is written with (`Text.SpellsHex`).

An id is looked at before it is read, so nothing but digits is let through.  The flags are not, and they
are read as settings are, where a plus sign may come before the digits (`Text.SpellsUnsigned`).  This is
the one place where the headers that are read are more than those of the plain grammar
(`signed_flags_read`).
-/

namespace Telemetry

namespace Text

/-! ## Digits of either case -/

theorem exists_of_isUpper {c : Char} (h : c.isUpper = true) : ∃ n < 26, c = Char.ofNat (65 + n) := by
  have h := of_decide_eq_true h
  have hlow : 65 ≤ c.toNat := UInt32.le_iff_toNat_le.mp h.1
  have hhigh : c.toNat ≤ 90 := UInt32.le_iff_toNat_le.mp h.2
  refine ⟨c.toNat - 65, by omega, ?_⟩
  rw [Nat.add_sub_cancel' hlow, Char.ofNat_toNat]

theorem toLower_of_not_isUpper {c : Char} (h : ¬ c.isUpper = true) : c.toLower = c :=
  dif_neg fun hupper => h (decide_eq_true hupper)

/-- What a digit stands for does not depend on its case. -/
theorem hexValue?_toLower (c : Char) : hexValue? c.toLower = hexValue? c := by
  by_cases h : c.isUpper
  · obtain ⟨n, hn, rfl⟩ := exists_of_isUpper h
    revert n
    decide
  · rw [toLower_of_not_isUpper h]

theorem toLower_eq_zero_iff {c : Char} : c.toLower = '0' ↔ c = '0' := by
  by_cases h : c.isUpper
  · obtain ⟨n, hn, rfl⟩ := exists_of_isUpper h
    revert n
    decide
  · rw [toLower_of_not_isUpper h]

theorem isLowerHex_toLower {c : Char} (h : isHex c = true) : isLowerHex c.toLower = true := by
  by_cases hupper : c.isUpper
  · obtain ⟨n, hn, rfl⟩ := exists_of_isUpper hupper
    revert n
    decide
  · rw [toLower_of_not_isUpper hupper]
    unfold isHex hexValue? at h
    split_ifs at h with hdigit hlower hcapital
    · simp [isLowerHex, hdigit]
    · simp [isLowerHex, hlower]
    · have hlast : c ≤ 'Z' := Char.le_trans hcapital.2 (show 'F' ≤ 'Z' by decide)
      exact absurd (decide_eq_true ⟨hcapital.1, hlast⟩) hupper
    · cases h

theorem readHex_map_toLower (cs : List Char) : readHex (cs.map Char.toLower) = readHex cs := by
  have hpush (n : Nat) (c : Char) : pushHex n c.toLower = pushHex n c := by
    rw [pushHex, hexValue?_toLower, pushHex]
  rw [readHex, List.foldl_map, readHex]
  simp only [hpush]

/-! ## Numbers in a text -/

/-- Whether digits of either case are those of a number, with any zeros in front. -/
structure SpellsHex (cs : List Char) (n : Nat) : Prop where
  ne_nil : cs ≠ []
  fits : n < Nat.pow 16 cs.length
  digits : cs.map Char.toLower = writeHex cs.length n

theorem spellsHex_iff {cs : List Char} {n : Nat} :
    SpellsHex cs n ↔ cs ≠ [] ∧ (∀ c ∈ cs, isHex c = true) ∧ readHex cs = n := by
  constructor
  · rintro ⟨hne, hfits, hdigits⟩
    refine ⟨hne, fun c hc => ?_, ?_⟩
    · have hmem : c.toLower ∈ writeHex cs.length n := hdigits ▸ List.mem_map_of_mem hc
      have hhex := isHex_of_isLowerHex (isLowerHex_of_mem_writeHex hmem)
      rwa [isHex, hexValue?_toLower] at hhex
    · rw [← readHex_map_toLower, hdigits, readHex_writeHex hfits]
  · rintro ⟨hne, hhex, rfl⟩
    have hlower : ∀ c ∈ cs.map Char.toLower, isLowerHex c = true :=
      List.forall_mem_map.mpr fun c hc => isLowerHex_toLower (hhex c hc)
    have hfits := readHex_lt hlower
    have hdigits := writeHex_readHex hlower
    rw [readHex_map_toLower, List.length_map] at hfits hdigits
    exact ⟨hne, hfits, hdigits.symm⟩

theorem SpellsHex.isHex {cs : List Char} {n : Nat} (h : SpellsHex cs n) : ∀ c ∈ cs, isHex c = true :=
  (spellsHex_iff.mp h).2.1

/-- Zeros alone spell zero, and nothing else does. -/
theorem SpellsHex.ne_zero_iff {cs : List Char} {n : Nat} (h : SpellsHex cs n) :
    n ≠ 0 ↔ ∃ c ∈ cs, c ≠ '0' := by
  rw [← exists_ne_zero_writeHex h.fits, ← h.digits]
  simp only [List.mem_map, ne_eq, exists_exists_and_eq_and, toLower_eq_zero_iff]

/-- Whether a text is the digits of a number, or a plus sign and its digits. -/
def SpellsUnsigned (cs : List Char) (n : Nat) : Prop :=
  ∃ digits, (cs = digits ∨ cs = '+' :: digits) ∧ SpellsHex digits n

theorem isHex_of_readDigits? {cs : List Char} {start n : Nat}
    (h : cs.foldlM (fun n c => (hexValue? c).map (n * 16 + ·)) start = some n) : ∀ c ∈ cs, isHex c = true := by
  induction cs generalizing start with
  | nil => nofun
  | cons c cs ih =>
    obtain ⟨next, hnext, hrest⟩ := Option.bind_eq_some_iff.mp h
    obtain ⟨v, hv, -⟩ := Option.map_eq_some_iff.mp hnext
    exact List.forall_mem_cons.mpr ⟨Option.isSome_iff_exists.mpr ⟨v, hv⟩, ih hrest⟩

theorem readDigits?_eq_some_iff {cs : List Char} {n : Nat} :
    readDigits? hexValue? 16 cs = some n ↔ (∀ c ∈ cs, isHex c = true) ∧ readHex cs = n := by
  have hread (h : ∀ c ∈ cs, isHex c = true) : readDigits? hexValue? 16 cs = some (readHex cs) :=
    readDigits?_hex (List.all_eq_true.mpr h) 0
  constructor
  · intro h
    have hhex : ∀ c ∈ cs, isHex c = true := isHex_of_readDigits? h
    rw [hread hhex] at h
    exact ⟨hhex, Option.some.inj h⟩
  · rintro ⟨hhex, rfl⟩
    exact hread hhex

theorem spellsUnsigned_iff {cs : List Char} {n : Nat} :
    SpellsUnsigned cs n ↔ SpellsHex (dropPlus cs) n := by
  unfold SpellsUnsigned dropPlus
  split
  next digits =>
    constructor
    · rintro ⟨_, rfl | hsign, hdigits⟩
      · exact absurd (hdigits.isHex '+' List.mem_cons_self) (by decide)
      · rwa [(List.cons.inj hsign).2]
    · exact fun hdigits => ⟨digits, .inr rfl, hdigits⟩
  next hsign =>
    constructor
    · rintro ⟨digits, rfl | rfl, hdigits⟩
      · exact hdigits
      · exact absurd rfl (hsign digits)
    · exact fun hdigits => ⟨cs, .inl rfl, hdigits⟩

theorem readHexByte?_eq_some_iff {cs : List Char} {n : Nat} :
    readHexByte? cs = some n ↔ n ≤ 255 ∧ SpellsUnsigned cs n := by
  rw [readHexByte?, readUnsigned?, Option.ite_none_left_eq_some, Option.filter_eq_some_iff,
    readDigits?_eq_some_iff, decide_eq_true_eq, spellsUnsigned_iff, spellsHex_iff, List.isEmpty_iff]
  tauto

theorem fields_eq_iff {sep : Char} {cs : List Char} {fs : List (List Char)} (hne : fs ≠ []) :
    fields sep cs = fs ↔ cs = join sep fs ∧ ∀ f ∈ fs, sep ∉ f := by
  constructor
  · rintro rfl
    exact ⟨(join_fields sep cs).symm, fun f => not_mem_of_mem_fields⟩
  · rintro ⟨rfl, hsep⟩
    exact fields_join hne hsep

end Text

theorem Overlay.get?_spanContextKey_onto (o : Overlay) (cx : Context) :
    (o.onto cx).get? spanContextKey = o.span?.or (cx.get? spanContextKey) := by
  unfold onto
  cases o.span? with
  | some s => exact Context.get?_set_self ..
  | none =>
    have hne : spanContextKey.id ≠ baggageKey.id := by decide
    rw [Context.get?, BaggageHeader.get?_entries_merge _ _ hne, Option.none_or, Context.get?]

namespace Jaeger

/-! ## Parts of a header -/

/-- The fields of a header. -/
structure Parts where
  trace : List Char
  span : List Char
  parent : List Char
  flags : List Char

/-- The fields in a row. -/
def Parts.fields (p : Parts) : List (List Char) := [p.trace, p.span, p.parent, p.flags]

/-- Whether a header, when its escapes are read, is these fields with colons between them. -/
structure Spells (header : List Char) (p : Parts) : Prop where
  text : Text.decodePercent header = Text.join ':' p.fields
  separate : ∀ f ∈ p.fields, ':' ∉ f

/-- Whether a text is an id of at most so many digits, not all of them zero. -/
structure IsId (most : Nat) (cs : List Char) : Prop where
  length_le : cs.length ≤ most
  isHex : ∀ c ∈ cs, Text.isHex c = true
  ne_zero : ∃ c ∈ cs, c ≠ '0'

/-- The fields that are read: two ids, anything, and a byte. -/
structure Parts.Accepted (p : Parts) : Prop where
  trace : IsId 32 p.trace
  span : IsId 16 p.span
  flags : ∃ n ≤ 255, Text.SpellsUnsigned p.flags n

/-- Whether fields give the two ids of a span and its flags. -/
structure Parts.Gives (p : Parts) (t : TraceId) (s : SpanId) (f : TraceFlags) : Prop where
  trace : Text.SpellsHex p.trace t.value.toNat
  span : Text.SpellsHex p.span s.value.toNat
  flags : Text.SpellsUnsigned p.flags f.byte.toNat

theorem readId?_eq_some_iff {most : Nat} {cs : List Char} {n : Nat} :
    readId? most cs = some n ↔ cs.length ≤ most ∧ Text.SpellsHex cs n := by
  rw [readId?, Option.ite_none_right_eq_some, Option.some.injEq, Text.spellsHex_iff]
  simp only [Bool.and_eq_true, Bool.not_eq_true', List.isEmpty_eq_false_iff, decide_eq_true_eq,
    List.all_eq_true]
  tauto

/-- The texts that are ids are those that spell a number which fits, and is not zero. -/
theorem isId_iff {most : Nat} {cs : List Char} :
    IsId most cs ↔ ∃ n, cs.length ≤ most ∧ Text.SpellsHex cs n ∧ n ≠ 0 := by
  constructor
  · rintro ⟨hlength, hhex, c, hc, hzero⟩
    have hspells : Text.SpellsHex cs (Text.readHex cs) :=
      Text.spellsHex_iff.mpr ⟨List.ne_nil_of_mem hc, hhex, rfl⟩
    exact ⟨_, hlength, hspells, hspells.ne_zero_iff.mpr ⟨c, hc, hzero⟩⟩
  · rintro ⟨n, hlength, hspells, hne⟩
    exact ⟨hlength, hspells.isHex, hspells.ne_zero_iff.mp hne⟩

/-! ## Reading -/

theorem spells_iff {header : List Char} {p : Parts} :
    Spells header p ↔ Text.fields ':' (Text.decodePercent header) = p.fields := by
  rw [Text.fields_eq_iff (by simp [Parts.fields])]
  exact ⟨fun ⟨htext, hseparate⟩ => ⟨htext, hseparate⟩, fun ⟨htext, hseparate⟩ => ⟨htext, hseparate⟩⟩

/-- The number of an id is kept in as many bits as its digits may have. -/
theorem toNat_ofNat_of_spellsHex {cs : List Char} {n most : Nat} (h : Text.SpellsHex cs n)
    (hlength : cs.length ≤ most) : (BitVec.ofNat (4 * most) n).toNat = n := by
  rw [BitVec.toNat_ofNat, Nat.mod_eq_of_lt]
  calc n < 16 ^ cs.length := h.fits
    _ ≤ 16 ^ most := Nat.pow_le_pow_right (by decide) hlength
    _ = 2 ^ (4 * most) := (Nat.pow_mul 2 4 most).symm

theorem isValid_trace_iff (t : TraceId) : t.isValid = true ↔ t.value.toNat ≠ 0 :=
  (TraceParent.isValid_traceId_iff t).trans (Text.exists_ne_zero_writeHex t.value.isLt)

theorem isValid_span_iff (s : SpanId) : s.isValid = true ↔ s.value.toNat ≠ 0 :=
  (TraceParent.isValid_spanId_iff s).trans (Text.exists_ne_zero_writeHex s.value.isLt)

theorem read?_of_accepted {header : List Char} {p : Parts} (hp : Spells header p) (h : p.Accepted) :
    ∃ t s f, p.Gives t s f ∧ read? header = some (.newRemote t s f.masked) := by
  obtain ⟨trace, htlength, htrace, htzero⟩ := isId_iff.mp h.trace
  obtain ⟨span, hslength, hspan, hszero⟩ := isId_iff.mp h.span
  obtain ⟨byte, hbyte, hflags⟩ := h.flags
  have ht : (BitVec.ofNat 128 trace).toNat = trace := toNat_ofNat_of_spellsHex htrace htlength
  have hs : (BitVec.ofNat 64 span).toNat = span := toNat_ofNat_of_spellsHex hspan hslength
  have hf : (BitVec.ofNat 8 byte).toNat = byte := by
    rw [BitVec.toNat_ofNat, Nat.mod_eq_of_lt (Nat.lt_succ_of_le hbyte)]
  refine ⟨⟨.ofNat 128 trace⟩, ⟨.ofNat 64 span⟩, ⟨.ofNat 8 byte⟩, ⟨?_, ?_, ?_⟩, ?_⟩
  · rwa [ht]
  · rwa [hs]
  · rwa [hf]
  · have htvalid : (TraceId.mk (.ofNat 128 trace)).isValid = true :=
      (isValid_trace_iff _).mpr (ht.symm ▸ htzero)
    have hsvalid : (SpanId.mk (.ofNat 64 span)).isValid = true := (isValid_span_iff _).mpr (hs.symm ▸ hszero)
    rw [read?, spells_iff.mp hp, Parts.fields]
    dsimp only
    rw [readId?_eq_some_iff.mpr ⟨htlength, htrace⟩, readId?_eq_some_iff.mpr ⟨hslength, hspan⟩,
      Text.readHexByte?_eq_some_iff.mpr ⟨hbyte, hflags⟩]
    simp only [bind, Option.bind_some, htvalid, hsvalid]
    rfl

theorem exists_accepted_of_read? {header : List Char} {r : SpanContext} (h : read? header = some r) :
    ∃ p, Spells header p ∧ p.Accepted := by
  unfold read? at h
  split at h
  next trace span parent flags hfields =>
    simp only [bind, Option.bind_eq_some_iff, Option.guard_eq_some', Bool.and_eq_true, isValid_trace_iff,
      isValid_span_iff] at h
    obtain ⟨t, ht, s, hs, f, hf, _, ⟨htzero, hszero⟩, -⟩ := h
    obtain ⟨htlength, htrace⟩ := readId?_eq_some_iff.mp ht
    obtain ⟨hslength, hspan⟩ := readId?_eq_some_iff.mp hs
    have htnat : (BitVec.ofNat 128 t).toNat = t := toNat_ofNat_of_spellsHex htrace htlength
    have hsnat : (BitVec.ofNat 64 s).toNat = s := toNat_ofNat_of_spellsHex hspan hslength
    rw [htnat] at htzero
    rw [hsnat] at hszero
    exact ⟨⟨trace, span, parent, flags⟩, spells_iff.mpr hfields,
      isId_iff.mpr ⟨t, htlength, htrace, htzero⟩, isId_iff.mpr ⟨s, hslength, hspan, hszero⟩,
      f, Text.readHexByte?_eq_some_iff.mp hf⟩
  next => cases h

/-! ## What a carrier does to a context -/

section Carriers

variable {γ : Type} [HeaderSource γ] {c : γ} {header : String}

/-- The items of a carrier, as a map: the value of a name is the one of its header. -/
theorem get?_ofList_items (c : γ) (name : String) : (SortedMap.ofList (items c)).get? name =
    if baggageStart ++ name ∈ HeaderSource.names c then
      (HeaderSource.get? c (baggageStart ++ name)).map readValue else none := by
  refine Option.ext fun value => ?_
  rw [SortedMap.get?_ofList, findEntry_eq_some_iff_of_unique, List.mem_reverse, mem_items,
    Option.ite_none_right_eq_some]
  exact fun other hother hvalue => items_unique (List.mem_reverse.mp hother) (List.mem_reverse.mp hvalue)

theorem overlay_of_header (h : HeaderSource.get? c headerName = some header) :
    Propagator.jaeger.overlay c =
      ⟨(read? header.toList).map fun s => { s with isRemote := true }, .ofList (items c)⟩ := by
  have hspan : Format.carried? c .jaeger = read? header.toList := by rw [Format.carried?, h]; rfl
  show Overlay.found c [Propagator.jaeger] = _
  rw [Overlay.found_singleton, Propagator.format?, Option.bind_some, hspan, Propagator.items, h]
  rfl

theorem extract_of_header (h : HeaderSource.get? c headerName = some header) (cx : Context) :
    (Propagator.jaeger.extract c cx).get? spanContextKey =
      ((read? header.toList).map fun s => { s with isRemote := true }).or (cx.get? spanContextKey) ∧
    (∀ name, (Propagator.jaeger.extract c cx).baggage.get? name =
      (if baggageStart ++ name ∈ HeaderSource.names c then
        (HeaderSource.get? c (baggageStart ++ name)).map readValue else none).or (cx.baggage.get? name)) ∧
    ∀ id, id ≠ spanContextKey.id → id ≠ baggageKey.id →
      (Propagator.jaeger.extract c cx).entries.get? id = cx.entries.get? id := by
  rw [Propagator.extract_eq, overlay_of_header h]
  refine ⟨Overlay.get?_spanContextKey_onto .., fun name => ?_, fun id => Overlay.get?_entries_onto _ cx⟩
  rw [Overlay.get?_baggage_onto, get?_ofList_items]

/-- The grammar of the header, for any carrier that has one.  A span context is set just if the decoded
header is four fields of which the first two are ids and the last is a byte, maybe with a plus sign, and
whatever the third is.  Then it is remote and without trace state, and has the numbers that the fields
spell for its ids and the last bit of the byte for its flags.  Otherwise the span context of the context stays.  In both cases the items
go into the baggage, and nothing else changes. -/
theorem header_exactly (h : HeaderSource.get? c headerName = some header) :
    ((∃ r, ∀ cx, (Propagator.jaeger.extract c cx).get? spanContextKey = some r) ↔
      ∃ p, Spells header.toList p ∧ p.Accepted) ∧
    (∀ p, Spells header.toList p → p.Accepted → ∃ t s f, p.Gives t s f ∧
      ∀ cx, (Propagator.jaeger.extract c cx).get? spanContextKey =
        some ⟨t, s, ⟨f.byte &&& 1⟩, true, .empty⟩) ∧
    ((¬ ∃ p, Spells header.toList p ∧ p.Accepted) →
      ∀ cx, (Propagator.jaeger.extract c cx).get? spanContextKey = cx.get? spanContextKey) ∧
    ∀ cx, (∀ name, (Propagator.jaeger.extract c cx).baggage.get? name =
        (if baggageStart ++ name ∈ HeaderSource.names c then
          (HeaderSource.get? c (baggageStart ++ name)).map readValue else none).or (cx.baggage.get? name)) ∧
      ∀ id, id ≠ spanContextKey.id → id ≠ baggageKey.id →
        (Propagator.jaeger.extract c cx).entries.get? id = cx.entries.get? id := by
  have hspan (cx : Context) := (extract_of_header h cx).1
  have hset {p : Parts} (hp : Spells header.toList p) (haccepted : p.Accepted) : ∃ t s f, p.Gives t s f ∧
      ∀ cx, (Propagator.jaeger.extract c cx).get? spanContextKey =
        some ⟨t, s, ⟨f.byte &&& 1⟩, true, .empty⟩ := by
    obtain ⟨t, s, f, hgives, hread⟩ := read?_of_accepted hp haccepted
    refine ⟨t, s, f, hgives, fun cx => ?_⟩
    rw [hspan, hread]
    rfl
  have hkept (hno : ¬ ∃ p, Spells header.toList p ∧ p.Accepted) (cx : Context) :
      (Propagator.jaeger.extract c cx).get? spanContextKey = cx.get? spanContextKey := by
    have hread : read? header.toList = none :=
      Option.eq_none_iff_forall_ne_some.mpr fun r hr => hno (exists_accepted_of_read? hr)
    rw [hspan, hread]
    rfl
  refine ⟨⟨fun ⟨r, hr⟩ => ?_, fun ⟨p, hp, haccepted⟩ => ?_⟩, fun p => hset, hkept,
    fun cx => (extract_of_header h cx).2⟩
  · -- what is set does not come from the context, which may be empty
    by_contra hno
    have hempty := hr .empty
    rw [hkept hno, Context.get?_empty] at hempty
    cases hempty
  · obtain ⟨t, s, f, -, hread⟩ := hset hp haccepted
    exact ⟨_, hread⟩

end Carriers

/-- A header with capitals, with an escaped colon, with nothing in its third field and with zeros in front
of its flags; and an item. -/
def escapedHeaders : HeaderMap :=
  .ofList [("uber-trace-id", "aBc%3A0F::00fE"), ("uberctx-user", "%20bob")]

theorem header_exactly_of_escaped :
    HeaderSource.get? escapedHeaders headerName = some "aBc%3A0F::00fE" ∧
    (∃ t s f, (Parts.mk "aBc".toList "0F".toList [] "00fE".toList).Gives t s f ∧
      ∀ cx, (Propagator.jaeger.extract escapedHeaders cx).get? spanContextKey =
        some ⟨t, s, ⟨f.byte &&& 1⟩, true, .empty⟩) ∧
    ∀ cx, (Propagator.jaeger.extract escapedHeaders cx).baggage.get? "user" = some "bob" := by
  have hget : HeaderSource.get? escapedHeaders headerName = some "aBc%3A0F::00fE" := by decide +kernel
  obtain ⟨-, hset, -, hitems⟩ := header_exactly hget
  have hspells : Spells "aBc%3A0F::00fE".toList ⟨"aBc".toList, "0F".toList, [], "00fE".toList⟩ :=
    spells_iff.mpr (by decide +kernel)
  have haccepted : (Parts.mk "aBc".toList "0F".toList [] "00fE".toList).Accepted :=
    ⟨⟨by decide, List.all_eq_true.mp (by decide), 'a', by decide, by decide⟩,
      ⟨by decide, List.all_eq_true.mp (by decide), 'F', by decide, by decide⟩,
      0xfe, Text.readHexByte?_eq_some_iff.mp (by decide)⟩
  refine ⟨hget, hset _ hspells haccepted, fun cx => ?_⟩
  have hlisted : baggageStart ++ "user" ∈ HeaderSource.names escapedHeaders := by decide +kernel
  have hvalue : (HeaderSource.get? escapedHeaders (baggageStart ++ "user")).map readValue = some "bob" := by
    decide +kernel
  rw [(hitems cx).1, if_pos hlisted, hvalue, Option.some_or]

/-- A header with a plus sign before its flags. -/
def signedHeaders : HeaderMap :=
  .ofList [("uber-trace-id", "4bf92f3577b34da6a3ce929d0e0e4736:00f067aa0ba902b7:0:+1")]

/-- Flags with a sign are read, although they are more than digits. -/
theorem signed_flags_read : ¬ ∀ (c : HeaderMap) (header : String),
    HeaderSource.get? c headerName = some header →
    ((∃ r, ∀ cx, (Propagator.jaeger.extract c cx).get? spanContextKey = some r) ↔
      ∃ p, Spells header.toList p ∧ IsId 32 p.trace ∧ IsId 16 p.span ∧ ∃ n ≤ 255, Text.SpellsHex p.flags n) := by
  intro h
  have hget : HeaderSource.get? signedHeaders headerName =
      some "4bf92f3577b34da6a3ce929d0e0e4736:00f067aa0ba902b7:0:+1" := by decide +kernel
  have hread : read? "4bf92f3577b34da6a3ce929d0e0e4736:00f067aa0ba902b7:0:+1".toList =
      some (.newRemote ⟨0x4bf92f3577b34da6a3ce929d0e0e4736⟩ ⟨0x00f067aa0ba902b7⟩ .sampled) := by
    decide +kernel
  obtain ⟨p, hp, -, -, n, -, hflags⟩ := (h signedHeaders _ hget).mp
    ⟨_, fun cx => (extract_of_header hget cx).1.trans (by rw [hread, Option.map_some, Option.some_or])⟩
  have hfields := (spells_iff.mp hp).symm.trans (by decide +kernel : _ =
    ["4bf92f3577b34da6a3ce929d0e0e4736".toList, "00f067aa0ba902b7".toList, ['0'], ['+', '1']])
  have hsign : p.flags = ['+', '1'] := by
    simp only [Parts.fields, List.cons.injEq] at hfields
    exact hfields.2.2.2.1
  exact absurd (hflags.isHex '+' (hsign ▸ List.mem_cons_self)) (by decide)

end Jaeger

end Telemetry
