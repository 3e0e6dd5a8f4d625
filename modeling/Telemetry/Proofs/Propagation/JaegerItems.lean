import Telemetry.Proofs.Propagation.BaggageRoundTrip

/-!
# Baggage items are read back

Jaeger sends each baggage item in a header of its own.  The name of the item is part of the name of the
header, so it is found again if a map does not change it, that is, if it is in lower case.  Such a name
stays in lower case behind `uberctx-`, since lower case goes character by character
(`Text.lowerBehind_eq_self_iff`).

The value is escaped, blanks and all, so that nothing of it is lost on the way.  But the reader takes off
blanks when it has read the escapes, and not before.  So it also takes off those that were in the value,
and just the values without blanks at their ends are read back (`items_read_back`).
-/

namespace Telemetry

namespace Text

/-! ## Lower case -/

/-- The lower case of a character does not begin with that character, unless it is that character. -/
theorem lowerChar_eq_cons (c : Char) : ∃ d rest, lowerChar c = d :: rest ∧ (d = c → rest = []) := by
  unfold lowerChar
  split
  next => exact ⟨_, [], rfl, fun _ => rfl⟩
  next =>
    split
    next hdotted => exact ⟨'i', ['\u0307'], rfl, fun hc => absurd (hc.trans hdotted) (by decide)⟩
    next => exact ⟨_, [], rfl, fun _ => rfl⟩

theorem lowerSigma_ne (before after : List Char) : lowerSigma before after ≠ capitalSigma := by
  unfold lowerSigma
  split <;> decide

/-- A text is in lower case when all of its characters are, wherever it stands. -/
theorem lowerBehind_eq_self_iff {before cs : List Char} :
    lowerBehind before cs = cs ↔ ∀ c ∈ cs, c ≠ capitalSigma ∧ lowerChar c = [c] := by
  refine ⟨fun h => ?_, fun h => lowerBehind_of_pointwise h before⟩
  induction cs generalizing before with
  | nil => nofun
  | cons c cs ih =>
    rw [lowerBehind] at h
    by_cases hsigma : c = capitalSigma
    · rw [if_pos hsigma] at h
      exact absurd ((List.cons.inj h).1.trans hsigma) (lowerSigma_ne before cs)
    · obtain ⟨d, rest, hlower, halone⟩ := lowerChar_eq_cons c
      rw [if_neg hsigma, hlower, List.cons_append] at h
      obtain ⟨rfl, hrest⟩ := List.cons.inj h
      rw [halone rfl, List.nil_append] at hrest
      rw [halone rfl] at hlower
      exact List.forall_mem_cons.mpr ⟨⟨hsigma, hlower⟩, ih hrest⟩

end Text

/-! ## Entries under other keys -/

/-- Keys may be given other names, if each has a name of its own. -/
theorem findEntry_map {κ μ β δ : Type} [Ord κ] [Std.LawfulEqOrd κ] [Ord μ] [Std.LawfulEqOrd μ] {f : κ → μ}
    (hf : Function.Injective f) (g : β → δ) (entries : List (κ × β)) (k : κ) :
    findEntry (f k) (entries.map fun e => (f e.1, g e.2)) = (findEntry k entries).map g := by
  induction entries with
  | nil => rfl
  | cons e entries ih =>
    by_cases h : k = e.1
    · simp [findEntry, h]
    · have hk : compare k e.1 ≠ .eq := fun c => h (Std.LawfulEqOrd.compare_eq_iff_eq.mp c)
      have hf : compare (f k) (f e.1) ≠ .eq := fun c => h (hf (Std.LawfulEqOrd.compare_eq_iff_eq.mp c))
      simp [findEntry, hk, hf, ih]

theorem SortedMap.mem_keys_iff {κ β : Type} [Ord κ] [Std.LawfulEqOrd κ] {m : SortedMap κ β} {k : κ} :
    k ∈ m.keys ↔ ∃ v, m.get? k = some v := by
  rw [keys, List.mem_map]
  constructor
  · rintro ⟨e, he, rfl⟩
    exact ⟨e.2, get?_eq_some_iff.mpr he⟩
  · rintro ⟨v, hv⟩
    exact ⟨(k, v), get?_eq_some_iff.mp hv, rfl⟩

namespace Jaeger

/-! ## The headers of items -/

/-- A value as it is sent. -/
def writeValue (value : String) : String := String.ofList (Text.encodePercent isEscaped value.toList)

/-- A value without the blanks around it. -/
def bareValue (value : String) : String := String.ofList (Text.trim value.toList)

theorem readValue_writeValue (value : String) : readValue (writeValue value) = bareValue value := by
  rw [readValue, writeValue, String.toList_ofList, Text.decodePercent_encodePercent (by decide), bareValue]

theorem bareValue_eq_self_iff {value : String} : bareValue value = value ↔
    (∀ c ∈ value.toList.head?, Text.isBlank c = false) ∧
      ∀ c ∈ value.toList.getLast?, Text.isBlank c = false := by
  rw [bareValue, ← String.toList_inj, String.toList_ofList, Text.trim_eq_self_iff]

theorem itemHeader_injective : Function.Injective fun name => baggageStart ++ name := by
  intro name other h
  rw [← String.toList_inj, String.toList_append, String.toList_append, List.append_cancel_left_eq] at h
  exact String.toList_inj.mp h

/-- The header of an item has the name that is asked for, if the item is in lower case. -/
theorem canonical_itemHeader {name : String} (h : HeaderMap.canonical name = name) :
    HeaderMap.canonical (baggageStart ++ name) = baggageStart ++ name := by
  have hstart : Text.lowerCase baggageStart.toList = baggageStart.toList := by decide +kernel
  rw [HeaderMap.canonical, ← String.toList_inj, String.toList_ofList, Text.lowerCase,
    Text.lowerBehind_eq_self_iff] at h
  rw [HeaderMap.canonical, ← String.toList_inj, String.toList_ofList, String.toList_append, Text.lowerCase,
    Text.lowerBehind_eq_self_iff]
  exact List.forall_mem_append.mpr ⟨Text.lowerBehind_eq_self_iff.mp hstart, h⟩

/-- Items in lower case are put under the names of their headers. -/
theorem foldl_injectItem {items : List (String × String)} (h : ∀ e ∈ items, HeaderMap.canonical e.1 = e.1)
    (m : HeaderMap) : (items.foldl injectItem m).entries =
      m.entries.insertAll (items.map fun e => (baggageStart ++ e.1, writeValue e.2)) := by
  induction items generalizing m with
  | nil => rfl
  | cons e items ih =>
    obtain ⟨he, hitems⟩ := List.forall_mem_cons.mp h
    have hput : (injectItem m e).entries = m.entries.insert (baggageStart ++ e.1) (writeValue e.2) :=
      congrArg (m.entries.insert · (writeValue e.2)) (canonical_itemHeader he)
    rw [List.foldl_cons, ih hitems, hput]
    rfl

section Written

variable {cx : Context} (hv : cx.span.isValid = true)
  (hnames : ∀ e ∈ cx.baggage.toList, HeaderMap.canonical e.1 = e.1)
include hv hnames

theorem get?_entries_inject (name : String) :
    (inject cx HeaderMap.empty).entries.get? (baggageStart ++ name) =
      (cx.baggage.get? name).map writeValue := by
  have hheader : baggageStart ++ name ≠ HeaderMap.canonical headerName := by
    intro he
    refine SpanHeader.jaeger.not_baggageStart_prefix ⟨name.toList, ?_⟩
    rw [← String.toList_append, he]
    exact congrArg _ SpanHeader.jaeger.canonical_name
  have hfirst : (HeaderSink.put HeaderMap.empty headerName (String.ofList (write cx.span))).entries.get?
      (baggageStart ++ name) = none := (SortedMap.get?_insert ..).trans (if_neg hheader)
  rw [inject, if_pos hv, foldl_injectItem hnames, SortedMap.get?_insertAll, hfirst, Option.or_none,
    ← List.map_reverse, findEntry_map itemHeader_injective, SortedMap.findEntry_reverse_toList]

theorem mem_items_inject {name value : String} : (name, value) ∈ items (inject cx HeaderMap.empty) ↔
    (cx.baggage.get? name).map bareValue = some value := by
  have hread {sent : String} (h : cx.baggage.get? name = some sent) :
      HeaderSource.get? (inject cx HeaderMap.empty) (baggageStart ++ name) = some (writeValue sent) := by
    have hname : HeaderMap.canonical name = name := hnames (name, sent) (SortedMap.get?_eq_some_iff.mp h)
    have hget := get?_entries_inject hv hnames name
    rw [h, Option.map_some, ← canonical_itemHeader hname] at hget
    exact hget
  have hmem : baggageStart ++ name ∈ HeaderSource.names (inject cx HeaderMap.empty) ↔
      ∃ sent, cx.baggage.get? name = some sent := by
    refine SortedMap.mem_keys_iff.trans ?_
    simp only [get?_entries_inject hv hnames, Option.map_eq_some_iff]
    exact ⟨fun ⟨_, sent, hsent, _⟩ => ⟨sent, hsent⟩, fun ⟨sent, hsent⟩ => ⟨_, sent, hsent, rfl⟩⟩
  rw [mem_items, hmem]
  constructor
  · rintro ⟨⟨sent, hsent⟩, hvalue⟩
    rwa [hread hsent, Option.map_some, readValue_writeValue, ← Option.map_some, ← hsent] at hvalue
  · intro hvalue
    obtain ⟨sent, hsent, rfl⟩ := Option.map_eq_some_iff.mp hvalue
    exact ⟨⟨sent, hsent⟩, by rw [hread hsent, Option.map_some, readValue_writeValue]⟩

/-- The items of the map that is written are those of the context, with bare values. -/
theorem get?_baggage_extract (cx₀ : Context) (name : String) :
    (Propagator.jaeger.extract (Propagator.jaeger.inject cx HeaderMap.empty) cx₀).baggage.get? name =
      ((cx.baggage.get? name).map bareValue).or (cx₀.baggage.get? name) := by
  have hpresent : (HeaderSource.get? (Propagator.jaeger.inject cx HeaderMap.empty) headerName).isSome := by
    have hheader : HeaderSource.get? (Propagator.jaeger.inject cx HeaderMap.empty) headerName =
      some (SpanHeader.value cx.span .jaeger) := Propagator.get?_inject hv .jaeger .jaeger HeaderMap.empty
    rw [hheader, Option.isSome_some]
  have hoverlay : (Propagator.jaeger.overlay (Propagator.jaeger.inject cx HeaderMap.empty)).baggage =
      .ofList (items (inject cx HeaderMap.empty)) := by
    show (Overlay.found _ [Propagator.jaeger]).baggage = _
    rw [Overlay.found_singleton, Propagator.items, if_pos hpresent]
    rfl
  have hitems : (SortedMap.ofList (items (inject cx HeaderMap.empty))).get? name =
      (cx.baggage.get? name).map bareValue := by
    refine Option.ext fun value => ?_
    rw [SortedMap.get?_ofList, findEntry_eq_some_iff_of_unique, List.mem_reverse, mem_items_inject hv hnames]
    exact fun other hother hvalue => items_unique (List.mem_reverse.mp hother) (List.mem_reverse.mp hvalue)
  rw [Propagator.extract_eq, Overlay.get?_baggage_onto, hoverlay, hitems]

end Written

/-! ## Other orders of the names -/

theorem inject_arranged (cx : Context) (m : HeaderMap) (arrange : List String → List String) :
    inject cx (HashedHeaders.mk m arrange) = ⟨inject cx m, arrange⟩ := by
  have hitems (items : List (String × String)) (m : HeaderMap) :
      items.foldl injectItem (HashedHeaders.mk m arrange) = ⟨items.foldl injectItem m, arrange⟩ := by
    induction items generalizing m with
    | nil => rfl
    | cons e items ih => exact ih (injectItem m e)
  unfold inject
  split
  next => exact hitems ..
  next => rfl

/-! ## The round trip -/

/-- Baggage of a valid span is sent in a blank map and read into any context.  If its names are in lower
case, then all of its names are read, each with its value without the blanks around it, and what else there
is in the context stays.  So all of the baggage is read back just if none of its values begins or ends
with a blank.  A hashed map is read to the same, in whichever order it lists its names. -/
theorem items_read_back {cx : Context} (hv : cx.span.isValid = true)
    (hnames : ∀ e ∈ cx.baggage.toList, HeaderMap.canonical e.1 = e.1) :
    (∀ cx₀ name,
      (Propagator.jaeger.extract (Propagator.jaeger.inject cx HeaderMap.empty) cx₀).baggage.get? name =
        ((cx.baggage.get? name).map fun value => String.ofList (Text.trim value.toList)).or
          (cx₀.baggage.get? name)) ∧
    ((Propagator.jaeger.extract (Propagator.jaeger.inject cx HeaderMap.empty) .empty).baggage = cx.baggage ↔
      ∀ e ∈ cx.baggage.toList, (∀ c ∈ e.2.toList.head?, Text.isBlank c = false) ∧
        ∀ c ∈ e.2.toList.getLast?, Text.isBlank c = false) ∧
    ∀ arrange : List String → List String, (∀ names, (arrange names).Perm names) → ∀ cx₀,
      Propagator.jaeger.extract (Propagator.jaeger.inject cx (HashedHeaders.mk .empty arrange)) cx₀ =
        Propagator.jaeger.extract (Propagator.jaeger.inject cx HeaderMap.empty) cx₀ := by
  have hread := get?_baggage_extract hv hnames
  refine ⟨hread, ?_, fun arrange harrange cx₀ => ?_⟩
  · have hempty (name : String) : Context.empty.baggage.get? name = none := rfl
    constructor
    · rintro hsame ⟨name, value⟩ he
      have hvalue : cx.baggage.get? name = some value := SortedMap.get?_eq_some_iff.mpr he
      have hbare := hread .empty name
      rw [hsame, hempty, Option.or_none, hvalue, Option.map_some] at hbare
      exact bareValue_eq_self_iff.mp (Option.some.inj hbare).symm
    · intro hbare
      refine SortedMap.ext_get? fun name => ?_
      rw [hread, hempty, Option.or_none]
      cases hvalue : cx.baggage.get? name with
      | none => rfl
      | some value =>
        exact congrArg some (bareValue_eq_self_iff.mpr (hbare _ (SortedMap.get?_eq_some_iff.mp hvalue)))
  · have hinject : Propagator.jaeger.inject cx (HashedHeaders.mk .empty arrange) =
        ⟨Propagator.jaeger.inject cx HeaderMap.empty, arrange⟩ := inject_arranged cx .empty arrange
    rw [hinject]
    exact Propagator.extract_congr (.arranged _ (harrange _)) .jaeger cx₀

/-- A context with a valid span and baggage. -/
def itemContext (items : List (String × String)) : Context :=
  (Context.withSpan .empty ⟨⟨0xab⟩, ⟨0xcd⟩, .sampled, false, .empty⟩).withBaggage (.ofList items)

/-- A context with characters of several sizes in its baggage, and an entry without any. -/
def unicodeContext : Context := itemContext [("größe", "5 €"), ("", "")]

theorem items_read_back_of_unicode :
    unicodeContext.span.isValid = true ∧
    (∀ e ∈ unicodeContext.baggage.toList, HeaderMap.canonical e.1 = e.1) ∧
    (Propagator.jaeger.extract (Propagator.jaeger.inject unicodeContext
      (HashedHeaders.mk .empty List.reverse)) .empty).baggage = unicodeContext.baggage ∧
    (Propagator.jaeger.extract (Propagator.jaeger.inject (itemContext [("user", "\talice ")])
      HeaderMap.empty) .empty).baggage.get? "user" = some "alice" := by
  have hv : unicodeContext.span.isValid = true := by decide +kernel
  have hlist : unicodeContext.baggage.toList = [("", ""), ("größe", "5 €")] := by decide +kernel
  have hnames : ∀ e ∈ unicodeContext.baggage.toList, HeaderMap.canonical e.1 = e.1 := by
    rw [hlist]
    decide +kernel
  obtain ⟨-, hsame, harranged⟩ := items_read_back hv hnames
  have hwhole : ∀ e ∈ unicodeContext.baggage.toList, bareValue e.2 = e.2 := by
    rw [hlist]
    decide
  have hspan : (itemContext [("user", "\talice ")]).span.isValid = true := by decide +kernel
  have huser : (itemContext [("user", "\talice ")]).baggage.get? "user" = some "\talice " := rfl
  have hbare : String.ofList (Text.trim "\talice ".toList) = "alice" := by decide
  have hread := (items_read_back hspan (by decide +kernel)).1 .empty "user"
  refine ⟨hv, hnames, ?_, ?_⟩
  · rw [harranged List.reverse List.reverse_perm]
    exact hsame.mpr fun e he => bareValue_eq_self_iff.mp (hwhole e he)
  · rw [hread, huser, Option.map_some, hbare, Option.some_or]

/-- A blank that begins a value is lost. -/
theorem blank_before_value_lost : ¬ ∀ cx : Context, cx.span.isValid = true →
    (∀ e ∈ cx.baggage.toList, HeaderMap.canonical e.1 = e.1) →
    (Propagator.jaeger.extract (Propagator.jaeger.inject cx HeaderMap.empty) .empty).baggage = cx.baggage := by
  intro h
  have hsame := h (itemContext [("user", " alice")]) (by decide +kernel) (by decide +kernel)
  revert hsame
  decide +kernel

end Jaeger

end Telemetry
