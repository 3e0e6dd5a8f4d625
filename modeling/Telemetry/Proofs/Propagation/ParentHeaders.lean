import Mathlib.Tactic.IntervalCases
import Telemetry.Proofs.Propagation.TraceStates

/-!
# The grammar of the trace context header

A header spells parts of fixed widths with dashes between them, behind any blanks (`Spells`).  What is
said of the end of a header is less simple.  The reader first tries to find more data behind the flags,
at least one character and as few as will do, so that only blanks follow, and none of them may be a line
feed.  It takes the end of the header for blanks only when there is no such data (`remainder?_eq_some_iff`).

A blank behind other data therefore never counts, but a blank right behind the flags is taken for data
itself, if it is no line feed.  No version allows such data, and the header is refused.

Where a header does not end with a blank there is one way only to read its end, and the headers that are
read are those of a plain grammar (`Parts.Accepted`).
-/

namespace Telemetry

namespace Text

theorem join_eq_intercalate (sep : Char) (fs : List (List Char)) : join sep fs = [sep].intercalate fs := by
  induction fs with
  | nil => rfl
  | cons f fs ih =>
      cases fs with
      | nil => simp [join]
      | cons g gs =>
          rw [join_cons_of_ne_nil _ _ (List.cons_ne_nil g gs), ih, List.intercalate_cons_cons,
            List.append_assoc, List.singleton_append]

/-- What begins a text with blanks behind it, and ends with no blank, reaches into none of them. -/
theorem exists_append_of_not_blank {text after front tail : List Char}
    (h : ∀ b ∈ after, isBlank b = true) (hlast : ∃ c ∈ front.getLast?, isBlank c = false)
    (htext : text ++ after = front ++ tail) : ∃ rest, text = front ++ rest ∧ tail = rest ++ after := by
  rcases List.append_eq_append_iff.mp htext with ⟨taken, hfront, hafter⟩ | hrest
  · have hnil : taken = [] := by
      by_contra hne
      obtain ⟨c, hc, hblank⟩ := hlast
      have htaken : c ∈ taken := by
        rw [hfront, List.getLast?_append_of_ne_nil _ hne] at hc
        exact List.mem_of_getLast? hc
      rw [h c (hafter ▸ List.mem_append_left _ htaken)] at hblank
      cases hblank
    subst hnil
    exact ⟨[], by simpa using hfront.symm, by simpa using hafter.symm⟩
  · exact hrest

/-! ## Numbers and their digits -/

/-- The digits that are read are those that are written. -/
theorem exists_hexDigit {c : Char} (h : isLowerHex c = true) : ∃ v < 16, c = hexDigit v := by
  simp only [isLowerHex, Bool.or_eq_true, Bool.and_eq_true, decide_eq_true_eq] at h
  have hbounds : 48 ≤ c.toNat ∧ c.toNat ≤ 57 ∨ 97 ≤ c.toNat ∧ c.toNat ≤ 102 :=
    h.imp (.imp UInt32.le_iff_toNat_le.mp UInt32.le_iff_toNat_le.mp)
      (.imp UInt32.le_iff_toNat_le.mp UInt32.le_iff_toNat_le.mp)
  rw [← Char.ofNat_toNat c]
  generalize c.toNat = n at hbounds
  rcases hbounds with ⟨hlow, hhigh⟩ | ⟨hlow, hhigh⟩
  · exact ⟨n - 48, by omega, by interval_cases n <;> rfl⟩
  · exact ⟨n - 87, by omega, by interval_cases n <;> rfl⟩

theorem readHex_concat (cs : List Char) {v : Nat} (h : v < 16) :
    readHex (cs ++ [hexDigit v]) = readHex cs * 16 + v := by
  rw [readHex, List.foldl_append, List.foldl_cons, List.foldl_nil, pushHex, hexValue?_hexDigit v h]
  rfl

/-- A number that is read from digits in lower case is written with them. -/
theorem writeHex_readHex {cs : List Char} (h : ∀ c ∈ cs, isLowerHex c = true) :
    writeHex cs.length (readHex cs) = cs := by
  induction cs using List.reverseRecOn with
  | nil => rfl
  | append_singleton cs c ih =>
      obtain ⟨hcs, hc⟩ := List.forall_mem_append.mp h
      obtain ⟨v, hv, rfl⟩ := exists_hexDigit (hc c (List.mem_singleton_self c))
      have hdiv : (readHex cs * 16 + v) / 16 = readHex cs := by omega
      have hmod : (readHex cs * 16 + v) % 16 = v := by omega
      rw [List.length_append, List.length_singleton, readHex_concat cs hv, writeHex, hdiv, hmod, ih hcs]

theorem readHex_lt {cs : List Char} (h : ∀ c ∈ cs, isLowerHex c = true) :
    readHex cs < Nat.pow 16 cs.length := by
  induction cs using List.reverseRecOn with
  | nil => decide
  | append_singleton cs c ih =>
      obtain ⟨hcs, hc⟩ := List.forall_mem_append.mp h
      obtain ⟨v, hv, rfl⟩ := exists_hexDigit (hc c (List.mem_singleton_self c))
      have hlt := ih hcs
      rw [readHex_concat cs hv, List.length_append, List.length_singleton]
      show readHex cs * 16 + v < Nat.pow 16 cs.length * 16
      omega

/-- Only zero is written with zeros alone. -/
theorem exists_ne_zero_writeHex {width n : Nat} (h : n < Nat.pow 16 width) :
    (∃ c ∈ writeHex width n, c ≠ '0') ↔ n ≠ 0 := by
  induction width generalizing n with
  | zero =>
      have hn : n = 0 := by simpa using h
      simp [writeHex, hn]
  | succ width ih =>
      have hdiv : n / 16 < Nat.pow 16 width := (Nat.div_lt_iff_lt_mul (by decide)).mpr h
      have hlast : ∀ v < 16, hexDigit v ≠ '0' ↔ v ≠ 0 := by decide
      simp only [writeHex, List.mem_append, List.mem_singleton, or_and_right, exists_or, ih hdiv,
        exists_eq_left, hlast _ (Nat.mod_lt n (by decide))]
      omega

end Text

namespace TraceParent

/-! ## Parts -/

/-- A row of so many digits. -/
def IsDigits (count : Nat) (cs : List Char) : Prop :=
  cs.length = count ∧ ∀ c ∈ cs, Text.isLowerHex c = true

theorem lowerHex?_eq_some_iff {count : Nat} {cs digits rest : List Char} :
    lowerHex? count cs = some (digits, rest) ↔ IsDigits count digits ∧ cs = digits ++ rest := by
  rw [lowerHex?, Option.ite_none_right_eq_some, List.all_eq_true, Option.some.injEq, Prod.mk.injEq]
  constructor
  · rintro ⟨hdigits, rfl, rfl⟩
    exact ⟨hdigits, (List.take_append_drop ..).symm⟩
  · rintro ⟨hdigits, rfl⟩
    rw [List.take_left' hdigits.1, List.drop_left' hdigits.1]
    exact ⟨hdigits, rfl, rfl⟩

theorem dash?_eq_some_iff {cs rest : List Char} : dash? cs = some rest ↔ cs = '-' :: rest := by
  unfold dash?
  split
  next => simp
  next hno =>
    constructor
    · rintro ⟨⟩
    · rintro rfl
      exact absurd rfl (hno rest)

/-- The parts in a row, with dashes between them. -/
def Parts.text (p : Parts) : List Char :=
  p.version ++ '-' :: (p.trace ++ '-' :: (p.span ++ '-' :: (p.flags ++ p.tail)))

/-- Whether a header is blanks and parts. -/
structure Spells (header : List Char) (p : Parts) : Prop where
  version : IsDigits 2 p.version
  trace : IsDigits 32 p.trace
  span : IsDigits 16 p.span
  flags : IsDigits 2 p.flags
  text : ∃ blanks, (∀ c ∈ blanks, Text.isBlank c = true) ∧ header = blanks ++ p.text

theorem isBlank_of_isLowerHex {c : Char} (h : Text.isLowerHex c = true) : Text.isBlank c = false := by
  obtain ⟨v, hv, rfl⟩ := Text.exists_hexDigit h
  revert v
  decide

theorem IsDigits.trimLeft_append {count : Nat} {digits : List Char} (h : IsDigits (count + 1) digits)
    (rest : List Char) : Text.trimLeft (digits ++ rest) = digits ++ rest := by
  obtain ⟨c, cs, rfl⟩ := List.exists_cons_of_length_eq_add_one h.1
  exact Text.trimLeft_cons_of_not_blank (isBlank_of_isLowerHex (h.2 c List.mem_cons_self))

theorem Parts.ofHeader?_eq_some_iff {header : List Char} {p : Parts} :
    Parts.ofHeader? header = some p ↔ Spells header p := by
  have hcut : Parts.ofHeader? header = some p ↔ (IsDigits 2 p.version ∧ IsDigits 32 p.trace ∧
      IsDigits 16 p.span ∧ IsDigits 2 p.flags) ∧ Text.trimLeft header = p.text := by
    simp only [Parts.ofHeader?, bind, pure, Option.bind_eq_some_iff, Prod.exists, lowerHex?_eq_some_iff,
      dash?_eq_some_iff, Option.some.injEq]
    constructor
    · rintro ⟨version, _, ⟨hversion, htext⟩, trace, _, ⟨_, rfl, htrace, rfl⟩, span, _,
        ⟨_, rfl, hspan, rfl⟩, flags, tail, ⟨_, rfl, hflags, rfl⟩, rfl⟩
      exact ⟨⟨hversion, htrace, hspan, hflags⟩, htext⟩
    · rintro ⟨⟨hversion, htrace, hspan, hflags⟩, htext⟩
      exact ⟨_, _, ⟨hversion, htext⟩, _, _, ⟨_, rfl, htrace, rfl⟩, _, _, ⟨_, rfl, hspan, rfl⟩, _, _,
        ⟨_, rfl, hflags, rfl⟩, rfl⟩
  rw [hcut]
  constructor
  · rintro ⟨⟨hversion, htrace, hspan, hflags⟩, htext⟩
    refine ⟨hversion, htrace, hspan, hflags, header.takeWhile Text.isBlank,
      fun c hc => List.mem_takeWhile_imp hc, ?_⟩
    rw [← htext]
    exact (List.takeWhile_append_dropWhile ..).symm
  · rintro ⟨hversion, htrace, hspan, hflags, blanks, hblanks, rfl⟩
    rw [Text.trimLeft_append_of_blank hblanks]
    exact ⟨⟨hversion, htrace, hspan, hflags⟩, hversion.trimLeft_append _⟩

/-! ## The end of a header -/

/-- A way to read the end of a header: data without a line feed, and blanks. -/
def Ends (tail data : List Char) : Prop :=
  '\n' ∉ data ∧ ∃ blanks, (∀ c ∈ blanks, Text.isBlank c = true) ∧ tail = data ++ blanks

theorem Ends.trimRight_prefix {tail data : List Char} (h : Ends tail data) :
    Text.trimRight tail <+: data := by
  obtain ⟨-, blanks, hblanks, rfl⟩ := h
  rw [Text.trimRight_append_of_blank hblanks]
  exact List.rdropWhile_prefix ..

theorem ends_trimRight {tail : List Char} (h : '\n' ∉ Text.trimRight tail) :
    Ends tail (Text.trimRight tail) := by
  refine ⟨h, tail.rtakeWhile Text.isBlank, fun c hc => List.mem_rtakeWhile_imp hc, ?_⟩
  exact (List.rdropWhile_append_rtakeWhile ..).symm

theorem ends_of_remainder? {tail data : List Char} (h : remainder? tail = some data) :
    Ends tail data ∧ ∀ other, other ≠ [] → Ends tail other → data ≠ [] ∧ data.length ≤ other.length := by
  cases tail with
  | nil =>
      cases h
      refine ⟨⟨List.not_mem_nil, [], by simp, rfl⟩, fun other hne hother => ?_⟩
      obtain ⟨-, blanks, -, htail⟩ := hother
      exact absurd (List.append_eq_nil_iff.mp htail.symm).1 hne
  | cons c cs =>
      simp only [remainder?] at h
      split at h
      next hbody =>
        have hblank : ∀ d ∈ c :: cs, Text.isBlank d = true := List.rdropWhile_eq_nil_iff.mp hbody
        by_cases hc : c = '\n'
        · rw [if_pos hc] at h
          cases h
          refine ⟨⟨List.not_mem_nil, c :: cs, hblank, rfl⟩, fun other hne hother => ?_⟩
          -- whatever is taken begins with the line feed
          obtain ⟨hfeed, blanks, -, htail⟩ := hother
          obtain ⟨d, ds, rfl⟩ := List.exists_cons_of_ne_nil hne
          obtain ⟨rfl, -⟩ := List.cons_eq_cons.mp htail
          exact absurd (hc ▸ List.mem_cons_self) hfeed
        · rw [if_neg hc] at h
          cases h
          refine ⟨⟨by simpa using Ne.symm hc, cs, (List.forall_mem_cons.mp hblank).2, rfl⟩,
            fun other hne _ => ⟨List.cons_ne_nil c [], List.length_pos_iff.mpr hne⟩⟩
      next hbody =>
        obtain ⟨hfeed, h⟩ := Option.ite_none_left_eq_some.mp h
        cases h
        exact ⟨ends_trimRight hfeed, fun other _ hother => ⟨hbody, hother.trimRight_prefix.length_le⟩⟩

theorem exists_remainder? {tail other : List Char} (h : Ends tail other) :
    ∃ data, remainder? tail = some data := by
  have hfeed : '\n' ∉ Text.trimRight tail := fun hm => h.1 (h.trimRight_prefix.subset hm)
  cases tail with
  | nil => exact ⟨[], rfl⟩
  | cons c cs =>
      simp only [remainder?]
      split
      next => exact ⟨_, rfl⟩
      next => exact ⟨_, if_neg hfeed⟩

/-- What is taken for data: rather some than none, and as little as possible. -/
theorem remainder?_eq_some_iff {tail data : List Char} : remainder? tail = some data ↔
    Ends tail data ∧ ∀ other, other ≠ [] → Ends tail other → data ≠ [] ∧ data.length ≤ other.length := by
  refine ⟨ends_of_remainder?, fun ⟨hends, hleast⟩ => ?_⟩
  obtain ⟨found, hfound⟩ := exists_remainder? hends
  obtain ⟨hfends, hfleast⟩ := ends_of_remainder? hfound
  rw [hfound, Option.some.injEq]
  by_cases hnil : found = []
  · by_contra hne
    exact (hfleast data (fun hd => hne (hnil.trans hd.symm)) hends).1 hnil
  · -- both are taken from the front, and neither is longer
    have hdata := hleast found hnil hfends
    have hlength := (hfleast data hdata.1 hends).2
    obtain ⟨-, blanks, -, htail⟩ := hends
    obtain ⟨-, others, -, hftail⟩ := hfends
    have hfront : found <+: data :=
      List.prefix_of_prefix_length_le ⟨others, hftail.symm⟩ ⟨blanks, htail.symm⟩ hlength
    exact hfront.eq_of_length_le hdata.2

/-- Where no blank ends the header, all of its end is data. -/
theorem remainder?_of_not_blank {tail : List Char} (h : ∀ b ∈ tail.getLast?, Text.isBlank b = false)
    {data : List Char} : remainder? tail = some data ↔ '\n' ∉ tail ∧ data = tail := by
  have hends {other : List Char} : Ends tail other ↔ '\n' ∉ tail ∧ other = tail := by
    constructor
    · rintro ⟨hfeed, blanks, hblanks, rfl⟩
      cases hlast : blanks.getLast? with
      | none =>
          obtain rfl := List.getLast?_eq_none_iff.mp hlast
          rw [List.append_nil]
          exact ⟨hfeed, rfl⟩
      | some b =>
          have hb := h b (by rw [List.getLast?_append, hlast]; rfl)
          rw [hblanks b (List.mem_of_getLast? hlast)] at hb
          cases hb
    · rintro ⟨hfeed, rfl⟩
      exact ⟨hfeed, [], by simp, (List.append_nil _).symm⟩
  rw [remainder?_eq_some_iff, hends]
  refine and_iff_left_of_imp ?_
  rintro ⟨-, rfl⟩ other hne hother
  obtain ⟨-, rfl⟩ := hends.mp hother
  exact ⟨hne, le_rfl⟩

/-! ## Ids and flags -/

/-- Digits write a number of four bits each. -/
theorem IsDigits.exists_bits {count : Nat} {cs : List Char} (h : IsDigits count cs) :
    ∃ b : BitVec (4 * count), cs = Text.writeHex count b.toNat := by
  obtain ⟨rfl, hall⟩ := h
  have hlt : Text.readHex cs < 2 ^ (4 * cs.length) := by
    rw [Nat.pow_mul]
    exact Text.readHex_lt hall
  refine ⟨BitVec.ofNat _ (Text.readHex cs), ?_⟩
  rw [BitVec.toNat_ofNat, Nat.mod_eq_of_lt hlt, Text.writeHex_readHex hall]

theorem isValid_traceId_iff (t : TraceId) : t.isValid = true ↔ ∃ c ∈ t.digits, c ≠ '0' := by
  obtain ⟨b⟩ := t
  rw [TraceId.digits, Text.exists_ne_zero_writeHex b.isLt, TraceId.isValid, bne_iff_ne, TraceId.invalid,
    ne_eq, TraceId.mk.injEq, ← BitVec.toNat_inj]
  rfl

theorem isValid_spanId_iff (s : SpanId) : s.isValid = true ↔ ∃ c ∈ s.digits, c ≠ '0' := by
  obtain ⟨b⟩ := s
  rw [SpanId.digits, Text.exists_ne_zero_writeHex b.isLt, SpanId.isValid, bne_iff_ne, SpanId.invalid,
    ne_eq, SpanId.mk.injEq, ← BitVec.toNat_inj]
  rfl

/-! ## Reading -/

theorem allows_eq_true_iff {version data : List Char} : allows version data = true ↔
    data = [] ∨ version ≠ ['0', '0'] ∧ data.head? = some '-' := by
  cases data with
  | nil => simp [allows]
  | cons c cs => simp [allows]

/-- The parts that are read of a header without blanks at its end: those of a known version, with both
ids, and with nothing behind the flags or else, in a later version, with a dash and more on the line. -/
structure Parts.Accepted (p : Parts) : Prop where
  version : p.version ≠ ['f', 'f']
  trace : ∃ c ∈ p.trace, c ≠ '0'
  span : ∃ c ∈ p.span, c ≠ '0'
  tail : p.tail = [] ∨ p.version ≠ ['0', '0'] ∧ p.tail.head? = some '-' ∧ '\n' ∉ p.tail

theorem Parts.isReadable_iff {p : Parts} (h : ∀ b ∈ p.tail.getLast?, Text.isBlank b = false) :
    p.isReadable = true ↔ p.version ≠ ['f', 'f'] ∧
      (p.tail = [] ∨ p.version ≠ ['0', '0'] ∧ p.tail.head? = some '-' ∧ '\n' ∉ p.tail) := by
  rw [Parts.isReadable, Bool.and_eq_true, bne_iff_ne, Option.any_eq_true]
  refine and_congr_right fun _ => ?_
  simp only [remainder?_of_not_blank h, allows_eq_true_iff]
  constructor
  · rintro ⟨_, ⟨hfeed, rfl⟩, hnil | ⟨hversion, hdash⟩⟩
    · exact .inl hnil
    · exact .inr ⟨hversion, hdash, hfeed⟩
  · rintro (hnil | ⟨hversion, hdash, hfeed⟩)
    · exact ⟨_, ⟨by simp [hnil], rfl⟩, .inl hnil⟩
    · exact ⟨_, ⟨hfeed, rfl⟩, .inr ⟨hversion, hdash⟩⟩

/-- What is read of a header that spells parts. -/
theorem Spells.read?_eq {header : List Char} {p : Parts} (h : Spells header p) :
    ∃ (t : TraceId) (i : SpanId) (f : TraceFlags), p.trace = t.digits ∧ p.span = i.digits ∧
      p.flags = Text.writeHex 2 f.byte.toNat ∧ ∀ state, read? header state =
        if p.isReadable = true ∧ t.isValid = true ∧ i.isValid = true then
          some ⟨t, i, f.masked, true, state⟩
        else none := by
  obtain ⟨trace, htrace⟩ := h.trace.exists_bits
  obtain ⟨span, hspan⟩ := h.span.exists_bits
  obtain ⟨flags, hflags⟩ := h.flags.exists_bits
  refine ⟨⟨trace⟩, ⟨span⟩, ⟨flags⟩, htrace, hspan, hflags, fun state => ?_⟩
  have ht : TraceId.ofHex? false p.trace = some ⟨trace⟩ := by
    rw [htrace]
    exact TraceId.ofHex?_digits false ⟨trace⟩
  have hi : SpanId.ofHex? p.span = some ⟨span⟩ := by
    rw [hspan]
    exact SpanId.ofHex?_digits ⟨span⟩
  have hf : TraceFlags.mk (BitVec.ofNat 8 (Text.readHex p.flags)) = ⟨flags⟩ := by
    rw [hflags, TraceFlags.readHex_writeHex ⟨flags⟩, BitVec.ofNat_toNat, BitVec.setWidth_eq]
  rw [read?, Parts.ofHeader?_eq_some_iff.mpr h]
  simp only [bind, pure, Option.bind_some, ht, hi, hf]
  by_cases hread : p.isReadable = true
  · by_cases hids : TraceId.isValid ⟨trace⟩ = true ∧ SpanId.isValid ⟨span⟩ = true
    · rw [if_pos ⟨hread, hids⟩, hread, hids.1, hids.2]
      rfl
    · have hno : ¬ (TraceId.isValid ⟨trace⟩ && SpanId.isValid ⟨span⟩) = true := by
        rwa [Bool.and_eq_true]
      rw [if_neg fun h => hids h.2, guard, if_pos hread, guard, if_neg hno]
      rfl
  · rw [if_neg fun h => hread h.1, guard, if_neg hread]
    rfl

/-- What does not spell any parts is not read. -/
theorem read?_eq_none {header : List Char} (h : ∀ p, ¬ Spells header p) (state : TraceState) :
    read? header state = none := by
  cases hp : Parts.ofHeader? header with
  | none =>
      rw [read?, hp]
      rfl
  | some p => exact absurd (Parts.ofHeader?_eq_some_iff.mp hp) (h p)

/-- The trace state of a carrier, whether it has one or not. -/
theorem carriedState_eq {γ : Type} [HeaderSource γ] (c : γ) : carriedState c =
    .ofHeader (",".intercalate ((HeaderSource.getAll? c stateHeaderName).getD [])) := by
  unfold carriedState
  cases HeaderSource.getAll? c stateHeaderName with
  | none => decide
  | some values =>
      refine congrArg TraceState.ofHeader (String.toList_inj.mp ?_)
      rw [String.toList_ofList, Text.join_eq_intercalate, Option.getD_some, String.toList_intercalate]
      rfl

/-! ## The grammar -/

theorem Spells.getLast?_tail {header : List Char} {p : Parts} (h : Spells header p)
    (hend : ∀ b ∈ header.getLast?, Text.isBlank b = false) :
    ∀ b ∈ p.tail.getLast?, Text.isBlank b = false := by
  obtain ⟨blanks, -, rfl⟩ := h.text
  intro b hb
  refine hend b ?_
  have htail : blanks ++ p.text = (blanks ++ p.version ++ '-' :: (p.trace ++ '-' :: (p.span ++ '-' ::
      p.flags))) ++ p.tail := by
    simp [Parts.text]
  rw [htail, List.getLast?_append, hb]
  rfl

section Carriers

variable {γ : Type} [HeaderSource γ] {c : γ}

theorem extract_of_carried? {s : SpanContext} (h : carried? c = some s) (hremote : s.isRemote = true)
    (cx : Context) : extract cx c = cx.withSpan s := by
  rw [extract, h]
  show cx.withSpan { s with isRemote := true } = cx.withSpan s
  rw [← hremote]

theorem extract_of_not_carried? (h : carried? c = none) (cx : Context) : extract cx c = cx := by
  rw [extract, h]

/-- What a carrier holds whose header spells parts. -/
theorem Spells.carried?_eq {header : String} {p : Parts} (hp : Spells header.toList p)
    (hget : HeaderSource.get? c headerName = some header)
    (hend : ∀ b ∈ header.toList.getLast?, Text.isBlank b = false) :
    ∃ (t : TraceId) (i : SpanId) (f : TraceFlags), p.trace = t.digits ∧ p.span = i.digits ∧
      p.flags = Text.writeHex 2 f.byte.toNat ∧
      (p.Accepted → carried? c = some ⟨t, i, f.masked, true, carriedState c⟩) ∧
      (¬ p.Accepted → carried? c = none) := by
  obtain ⟨t, i, f, ht, hi, hf, hread⟩ := hp.read?_eq
  have haccepted : p.Accepted ↔ p.isReadable = true ∧ t.isValid = true ∧ i.isValid = true := by
    rw [Parts.isReadable_iff (hp.getLast?_tail hend), isValid_traceId_iff, isValid_spanId_iff, ← ht, ← hi]
    exact ⟨fun h => ⟨⟨h.version, h.tail⟩, h.trace, h.span⟩, fun h => ⟨h.1.1, h.2.1, h.2.2, h.1.2⟩⟩
  refine ⟨t, i, f, ht, hi, hf, fun h => ?_, fun h => ?_⟩
  · rw [carried?, hget, Option.bind_some, hread, if_pos (haccepted.mp h)]
  · rw [carried?, hget, Option.bind_some, hread, if_neg fun hno => h (haccepted.mpr hno)]

theorem carried?_eq_none (hend : ∀ header ∈ HeaderSource.get? c headerName,
      ∀ b ∈ header.toList.getLast?, Text.isBlank b = false)
    (h : ¬ ∃ header p, HeaderSource.get? c headerName = some header ∧ Spells header.toList p ∧ p.Accepted) :
    carried? c = none := by
  cases hget : HeaderSource.get? c headerName with
  | none => rw [carried?, hget, Option.bind_none]
  | some header =>
      by_cases hp : ∃ p, Spells header.toList p
      · obtain ⟨p, hp⟩ := hp
        obtain ⟨_, _, _, -, -, -, -, hrefused⟩ := hp.carried?_eq hget (hend header hget)
        exact hrefused fun haccepted => h ⟨header, p, hget, hp, haccepted⟩
      · rw [carried?, hget, Option.bind_some, read?_eq_none (not_exists.mp hp)]

/-- Of a header that does not end with a blank, a span context is read if and only if the header is one of
the grammar.  Its ids are those that the header writes, of its flags there is the last bit, it is remote,
and its trace state is read from all trace state headers together.  Else the context stays as it is. -/
theorem header_grammar (hend : ∀ header ∈ HeaderSource.get? c headerName,
      ∀ b ∈ header.toList.getLast?, Text.isBlank b = false) :
    ((∃ s, carried? c = some s) ↔ ∃ header p, HeaderSource.get? c headerName = some header ∧
      Spells header.toList p ∧ p.Accepted) ∧
    (∀ header p, HeaderSource.get? c headerName = some header → Spells header.toList p → p.Accepted →
      ∃ (t : TraceId) (i : SpanId) (f : TraceFlags), p.trace = t.digits ∧ p.span = i.digits ∧
        p.flags = Text.writeHex 2 f.byte.toNat ∧ ∀ cx, extract cx c = cx.withSpan ⟨t, i, ⟨f.byte &&& 1⟩, true,
          .ofHeader (",".intercalate ((HeaderSource.getAll? c stateHeaderName).getD []))⟩) ∧
    ((¬ ∃ header p, HeaderSource.get? c headerName = some header ∧ Spells header.toList p ∧ p.Accepted) →
      ∀ cx, extract cx c = cx) := by
  have hnone := carried?_eq_none hend
  refine ⟨⟨fun ⟨s, hs⟩ => ?_, fun ⟨header, p, hget, hp, haccepted⟩ => ?_⟩,
    fun header p hget hp haccepted => ?_, fun h => extract_of_not_carried? (hnone h)⟩
  · by_contra h
    rw [hnone h] at hs
    cases hs
  · obtain ⟨_, _, _, -, -, -, hsome, -⟩ := hp.carried?_eq hget (hend header hget)
    exact ⟨_, hsome haccepted⟩
  · obtain ⟨t, i, f, ht, hi, hf, hsome, -⟩ := hp.carried?_eq hget (hend header hget)
    refine ⟨t, i, f, ht, hi, hf, fun cx => ?_⟩
    rw [extract_of_carried? (hsome haccepted) rfl, carriedState_eq]
    rfl

end Carriers

/-- A header of a later version behind a blank, and a trace state in two headers. -/
def laterHeaders : HeaderList :=
  ⟨[(headerName, "\t01-4bf92f3577b34da6a3ce929d0e0e4736-00f067aa0ba902b7-03-what"),
    (stateHeaderName, "foo=1"), (stateHeaderName, "bar=2")]⟩

/-- The parts of that header. -/
def laterParts : Parts :=
  ⟨"01".toList, "4bf92f3577b34da6a3ce929d0e0e4736".toList, "00f067aa0ba902b7".toList, "03".toList,
    "-what".toList⟩

theorem header_grammar_of_later_version :
    (∀ header ∈ HeaderSource.get? laterHeaders headerName,
      ∀ b ∈ header.toList.getLast?, Text.isBlank b = false) ∧
    ∃ (t : TraceId) (i : SpanId) (f : TraceFlags), laterParts.trace = t.digits ∧ laterParts.span = i.digits ∧
      laterParts.flags = Text.writeHex 2 f.byte.toNat ∧ ∀ cx, extract cx laterHeaders =
        cx.withSpan ⟨t, i, ⟨f.byte &&& 1⟩, true, ⟨[("foo", "1"), ("bar", "2")]⟩⟩ := by
  have hend : ∀ header ∈ HeaderSource.get? laterHeaders headerName,
      ∀ b ∈ header.toList.getLast?, Text.isBlank b = false := by
    rintro _ ⟨⟩ _ ⟨⟩
    rfl
  have hspells : Spells "\t01-4bf92f3577b34da6a3ce929d0e0e4736-00f067aa0ba902b7-03-what".toList laterParts :=
    Parts.ofHeader?_eq_some_iff.mp (by decide +kernel)
  have haccepted : laterParts.Accepted :=
    ⟨by decide, ⟨'4', by decide, by decide⟩, ⟨'f', by decide, by decide⟩, .inr (by decide)⟩
  obtain ⟨t, i, f, ht, hi, hf, hread⟩ := (header_grammar hend).2.1 _ _ rfl hspells haccepted
  refine ⟨hend, t, i, f, ht, hi, hf, fun cx => ?_⟩
  rw [hread]
  have hstate : TraceState.ofHeader (",".intercalate
      ((HeaderSource.getAll? laterHeaders stateHeaderName).getD [])) = ⟨[("foo", "1"), ("bar", "2")]⟩ := by
    decide +kernel
  rw [hstate]

/-! ## Blanks around a header -/

theorem Parts.ofHeader?_blanks_append {before : List Char} (h : ∀ b ∈ before, Text.isBlank b = true)
    (header : List Char) : Parts.ofHeader? (before ++ header) = Parts.ofHeader? header := by
  rw [Parts.ofHeader?, Text.trimLeft_append_of_blank h, Parts.ofHeader?]

/-- Blanks behind a header belong to its end. -/
theorem spells_append_iff {after : List Char} (h : ∀ b ∈ after, Text.isBlank b = true) {header : List Char}
    {p : Parts} :
    Spells (header ++ after) p ↔ ∃ q, Spells header q ∧ p = { q with tail := q.tail ++ after } := by
  constructor
  · rintro ⟨hversion, htrace, hspan, hflags, blanks, hblanks, htext⟩
    let front := blanks ++ p.version ++ '-' :: (p.trace ++ '-' :: (p.span ++ ['-'])) ++ p.flags
    have hfront : header ++ after = front ++ p.tail := by
      rw [htext]
      simp [front, Parts.text]
    have hlast : ∃ c ∈ front.getLast?, Text.isBlank c = false := by
      obtain ⟨a, b, hab⟩ := List.length_eq_two.mp hflags.1
      have hb : b ∈ p.flags := by simp [hab]
      refine ⟨b, ?_, isBlank_of_isLowerHex (hflags.2 b hb)⟩
      rw [List.getLast?_append, hab]
      rfl
    obtain ⟨rest, hheader, htail⟩ := Text.exists_append_of_not_blank h hlast hfront
    refine ⟨{ p with tail := rest }, ⟨hversion, htrace, hspan, hflags, blanks, hblanks, ?_⟩, ?_⟩
    · rw [hheader]
      simp [front, Parts.text]
    · rw [← htail]
  · rintro ⟨q, ⟨hversion, htrace, hspan, hflags, blanks, hblanks, rfl⟩, rfl⟩
    refine ⟨hversion, htrace, hspan, hflags, blanks, hblanks, ?_⟩
    simp [Parts.text]

/-- Blanks behind data do not change it. -/
theorem remainder?_append_of_blank {after : List Char} (h : ∀ b ∈ after, Text.isBlank b = true)
    {tail : List Char} (hne : tail ≠ []) : remainder? (tail ++ after) = remainder? tail := by
  obtain ⟨c, cs, rfl⟩ := List.exists_cons_of_ne_nil hne
  have htrim := Text.trimRight_append_of_blank h (c :: cs)
  rw [List.cons_append] at htrim ⊢
  rw [remainder?, htrim, remainder?]

/-- Blanks on their own are data unless a line feed comes first. -/
theorem remainder?_of_blank {b : Char} {rest : List Char} (h : ∀ c ∈ b :: rest, Text.isBlank c = true) :
    remainder? (b :: rest) = some (if b = '\n' then [] else [b]) := by
  have htrim : Text.trimRight (b :: rest) = [] := List.rdropWhile_eq_nil_iff.mpr h
  rw [remainder?, htrim]

/-- Whether a header ends with its flags, and blanks would be taken for data there. -/
def Exposed (header after : List Char) : Prop :=
  (∃ p, Spells header p ∧ p.tail = []) ∧ ∃ b ∈ after.head?, b ≠ '\n'

theorem isReadable_append {after : List Char} (h : ∀ b ∈ after, Text.isBlank b = true) (p : Parts) :
    ((p.tail = [] → ∀ b ∈ after.head?, b = '\n') →
      Parts.isReadable { p with tail := p.tail ++ after } = p.isReadable) ∧
    (p.tail = [] → (∃ b ∈ after.head?, b ≠ '\n') →
      Parts.isReadable { p with tail := p.tail ++ after } = false) := by
  constructor
  · intro hfeed
    have hsame : remainder? (p.tail ++ after) = remainder? p.tail := by
      by_cases hnil : p.tail = []
      · rw [hnil, List.nil_append]
        cases after with
        | nil => rfl
        | cons b rest => rw [remainder?_of_blank h, if_pos (hfeed hnil b rfl), remainder?]
      · exact remainder?_append_of_blank h hnil
    rw [Parts.isReadable, Parts.isReadable, hsame]
  · rintro hnil ⟨b, hb, hfeed⟩
    cases after with
    | nil => cases hb
    | cons first rest =>
        obtain rfl : first = b := Option.some.inj hb
        have hdash : first ≠ '-' := by
          rintro rfl
          exact absurd (h '-' List.mem_cons_self) (by decide)
        rw [Parts.isReadable, hnil, List.nil_append, remainder?_of_blank h, if_neg hfeed]
        simp [allows, hdash]

theorem read?_append {after : List Char} (h : ∀ b ∈ after, Text.isBlank b = true) (header : List Char)
    (state : TraceState) :
    (¬ Exposed header after → read? (header ++ after) state = read? header state) ∧
    (Exposed header after → read? (header ++ after) state = none) := by
  by_cases hp : ∃ p, Spells header p
  · obtain ⟨p, hp⟩ := hp
    have hcut := Parts.ofHeader?_eq_some_iff.mpr hp
    have hmore := Parts.ofHeader?_eq_some_iff.mpr ((spells_append_iff h).mpr ⟨p, hp, rfl⟩)
    obtain ⟨hsame, hrefused⟩ := isReadable_append h p
    constructor
    · intro hexposed
      have hreadable := hsame fun hnil b hb => by
        by_contra hfeed
        exact hexposed ⟨⟨p, hp, hnil⟩, b, hb, hfeed⟩
      rw [read?, read?, hcut, hmore]
      simp only [bind, Option.bind_some, hreadable]
    · rintro ⟨⟨q, hq, hnil⟩, hfeed⟩
      obtain rfl : p = q := Option.some.inj (hcut.symm.trans (Parts.ofHeader?_eq_some_iff.mpr hq))
      rw [read?, hmore]
      simp only [bind, Option.bind_some, hrefused hnil hfeed]
      rfl
  · have hnone : ∀ q, ¬ Spells (header ++ after) q := fun q hq => by
      obtain ⟨p, hspells, -⟩ := (spells_append_iff h).mp hq
      exact hp ⟨p, hspells⟩
    rw [read?_eq_none hnone, read?_eq_none (not_exists.mp hp)]
    exact ⟨fun _ => rfl, fun _ => rfl⟩

/-- Blanks around a header do not count, with one exception: when the header ends with its flags and the
first blank behind them is no line feed, nothing is read of it and the context stays as it is. -/
theorem blanks_around {γ δ : Type} [HeaderSource γ] [HeaderSource δ] {c : γ} {d : δ}
    {before header after : String} (hbefore : ∀ b ∈ before.toList, Text.isBlank b = true)
    (hafter : ∀ b ∈ after.toList, Text.isBlank b = true)
    (hc : HeaderSource.get? c headerName = some (before ++ header ++ after))
    (hd : HeaderSource.get? d headerName = some header)
    (hstate : HeaderSource.getAll? c stateHeaderName = HeaderSource.getAll? d stateHeaderName)
    (cx : Context) :
    (¬ Exposed header.toList after.toList → extract cx c = extract cx d) ∧
    (Exposed header.toList after.toList → extract cx c = cx) := by
  have hcarried : carriedState c = carriedState d := by rw [carriedState, carriedState, hstate]
  have hread (state : TraceState) :
      read? (before ++ header ++ after).toList state = read? (header.toList ++ after.toList) state := by
    rw [String.append_assoc, String.toList_append, String.toList_append, read?,
      Parts.ofHeader?_blanks_append hbefore, read?]
  obtain ⟨hsame, hnone⟩ := read?_append hafter header.toList (carriedState d)
  constructor
  · intro hexposed
    rw [extract, extract, carried?, carried?, hc, hd, Option.bind_some, Option.bind_some, hread, hcarried,
      hsame hexposed]
  · intro hexposed
    refine extract_of_not_carried? ?_ cx
    rw [carried?, hc, Option.bind_some, hread, hcarried, hnone hexposed]

/-- A carrier of one header. -/
def single (header : String) : HeaderMap := .ofList [(headerName, header)]

/-- Blanks on both sides that do not count, a line feed being the first behind the flags, and blanks of
which a space is the first. -/
theorem blanks_around_of_sample :
    (∀ cx, extract cx (single ("\t" ++ sample ++ "\n ")) = extract cx (single sample)) ∧
    ∀ cx, extract cx (single ("\t" ++ sample ++ " \n")) = cx := by
  have hget : HeaderSource.get? (single sample) headerName = some sample := by decide +kernel
  have hspells : Spells sample.toList ⟨"00".toList, "4bf92f3577b34da6a3ce929d0e0e4736".toList,
      "00f067aa0ba902b7".toList, "01".toList, []⟩ :=
    Parts.ofHeader?_eq_some_iff.mp (by decide +kernel)
  have htab : ∀ b ∈ "\t".toList, Text.isBlank b = true := List.all_eq_true.mp (by decide)
  constructor
  · intro cx
    have hafter : ∀ b ∈ "\n ".toList, Text.isBlank b = true := List.all_eq_true.mp (by decide)
    have hget' : HeaderSource.get? (single ("\t" ++ sample ++ "\n ")) headerName =
        some ("\t" ++ sample ++ "\n ") := by decide +kernel
    refine (blanks_around htab hafter hget' hget (by decide +kernel) cx).1 ?_
    rintro ⟨-, b, hb, hfeed⟩
    exact hfeed (Option.some.inj hb).symm
  · intro cx
    have hafter : ∀ b ∈ " \n".toList, Text.isBlank b = true := List.all_eq_true.mp (by decide)
    have hget' : HeaderSource.get? (single ("\t" ++ sample ++ " \n")) headerName =
        some ("\t" ++ sample ++ " \n") := by decide +kernel
    exact (blanks_around htab hafter hget' hget (by decide +kernel) cx).2
      ⟨⟨_, hspells, rfl⟩, ' ', rfl, by decide⟩

/-- A header that is read well on its own is lost with a space behind it. -/
theorem blank_behind_flags_refused :
    ¬ ∀ before header after : String, (∀ b ∈ before.toList, Text.isBlank b = true) →
      (∀ b ∈ after.toList, Text.isBlank b = true) →
      ∀ cx, extract cx (single (before ++ header ++ after)) = extract cx (single header) := by
  intro h
  have hblank : ∀ b ∈ " ".toList, Text.isBlank b = true := List.all_eq_true.mp (by decide)
  have hread := congrArg Context.hasSpan (h "" sample " " nofun hblank .empty)
  revert hread
  decide +kernel

end TraceParent

end Telemetry
