import Telemetry.Proofs.Propagation.ByteOrder
import Telemetry.Proofs.Propagation.Escapes
import Telemetry.Proofs.Propagation.Overlay

/-!
# Baggage is read back

Names and values of baggage are any texts, and none of them is changed on the way: a member is escaped so
that it neither holds a separator nor has blanks to trim, and it is read to what it was written for
(`readMember?_writeMember`).  What is lost is lost to the limits of the reader, and to it having no use
for an entry without a name.  The writer knows nothing of this.  It writes all entries, so an entry that
is not read still takes one of the places there are, and bytes of the header (`read_write`).
-/

namespace Telemetry

namespace BaggageHeader

/-! ## Members -/

theorem isEscaped_of_blank {c : Char} (hascii : c.toNat < 128) (h : Text.isBlank c = true) :
    isEscaped c = true := by
  have hall : ∀ n < 128, Text.isBlankCode n = true → isEscaped (Char.ofNat n) = true := by decide
  have hc := hall c.toNat hascii h
  rwa [Char.ofNat_toNat] at hc

/-- A text is read back, whatever it is. -/
theorem readText_encodePercent (text : String) :
    readText (Text.encodePercent isEscaped text.toList) = text := by
  rw [readText, Text.trim_encodePercent fun _ => isEscaped_of_blank,
    Text.decodePercent_encodePercent (by decide), String.ofList_toList]

/-- No separator is in a text as it is written. -/
theorem separator_not_mem_encodePercent {sep : Char} (h : sep ∈ [',', ';', '=']) (text : List Char) :
    sep ∉ Text.encodePercent isEscaped text := by
  have hall : ([',', ';', '='].all fun c =>
      isEscaped c && c != '%' && !Text.isEscapeDigit c) = true := by decide
  have hsep := List.all_eq_true.mp hall sep h
  simp only [Bool.and_eq_true, bne_iff_ne, Bool.not_eq_true'] at hsep
  exact Text.not_mem_encodePercent hsep.1.1 hsep.1.2 hsep.2 text

theorem separator_not_mem_writeMember {sep : Char} (h : sep ∈ [',', ';']) (name value : String) :
    sep ∉ writeMember name value := by
  have htext := separator_not_mem_encodePercent (List.mem_append_left ['='] h)
  have hequals : sep ≠ '=' := by
    rintro rfl
    exact absurd h (by decide)
  intro hm
  rcases List.mem_append.mp hm with hm | hm
  · exact htext _ hm
  · exact (List.mem_cons.mp hm).elim hequals (htext _)

/-- A member is read to the entry that it was written for, unless it is too long or has no name. -/
theorem readMember?_writeMember (name value : String) : readMember? (writeMember name value) =
    if name ≠ "" ∧ Text.byteLength (writeMember name value) ≤ maxMemberLength then some (name, value)
    else none := by
  have hproperties : ';' ∉ writeMember name value := separator_not_mem_writeMember (by decide) name value
  have hequals : '=' ∉ Text.encodePercent isEscaped name.toList :=
    separator_not_mem_encodePercent (by decide) _
  have hcut : Text.cut '=' (writeMember name value) = some (Text.encodePercent isEscaped name.toList,
      Text.encodePercent isEscaped value.toList) := Text.cut_append_cons hequals _
  rw [readMember?, Text.fields_of_not_mem hproperties]
  dsimp only [List.headD_cons]
  rw [hcut, Option.bind_some, readText_encodePercent, readText_encodePercent]
  by_cases hlong : maxMemberLength < Text.byteLength (writeMember name value)
  · rw [if_pos hlong, if_neg fun h => absurd hlong (Nat.not_lt.mpr h.2)]
  · rw [if_neg hlong]
    by_cases hname : name = ""
    · rw [if_pos (by simpa using hname), if_neg fun h => h.1 hname]
    · rw [if_neg (by simpa using hname), if_pos ⟨hname, Nat.not_lt.mp hlong⟩]

/-! ## Headers -/

/-- The entries that get through. -/
def kept (b : Baggage) : List (String × String) :=
  (b.toList.take maxMembers).filter fun e =>
    e.1 ≠ "" ∧ Text.byteLength (writeMember e.1 e.2) ≤ maxMemberLength

theorem write_eq (b : Baggage) :
    write b = Text.join ',' (b.toList.map fun e => writeMember e.1 e.2) := rfl

/-- A header is read to the entries that get through, unless it is too long. -/
theorem read_write (b : Baggage) :
    read (write b) = if maxHeaderLength < Text.byteLength (write b) then [] else kept b := by
  have hfound : ((Text.fields ',' (write b)).take maxMembers).filterMap readMember? = kept b := by
    by_cases hnil : b.toList = []
    · -- the empty header has a field too, but that is no member
      rw [write, kept, hnil]
      decide
    · have hcomma : ∀ f ∈ b.toList.map fun e => writeMember e.1 e.2, ',' ∉ f := by
        intro f hf
        obtain ⟨e, -, rfl⟩ := List.mem_map.mp hf
        exact separator_not_mem_writeMember (by decide) e.1 e.2
      have hread : (readMember? ∘ fun (e : String × String) => writeMember e.1 e.2) =
          Option.guard fun e => e.1 ≠ "" ∧ Text.byteLength (writeMember e.1 e.2) ≤ maxMemberLength := by
        funext e
        rw [Function.comp_apply, readMember?_writeMember, Option.guard]
        simp only [decide_eq_true_eq]
      rw [write_eq, Text.fields_join (by simpa using hnil) hcomma, ← List.map_take, List.filterMap_map,
        hread, List.filterMap_eq_filter, kept]
  rw [read, hfound]

variable {γ : Type} [HeaderSource γ] [HeaderSink γ] [MapCarrier γ] {blank : γ}

/-- What is written into a blank carrier is the header, or nothing, which is read as nothing. -/
theorem carried_inject (hblank : Blank blank) (cx : Context) :
    carried (inject cx blank) = read (write cx.baggage) := by
  unfold inject carried
  split
  next hempty =>
    have hnil : cx.baggage.toList = [] := List.isEmpty_iff.mp hempty
    rw [hblank, write, hnil]
    decide
  next =>
    rw [MapCarrier.get?_put, if_pos rfl, Option.map_some, String.toList_ofList]
    rfl

theorem extract_inject (hblank : Blank blank) (cx cx₀ : Context) : extract cx₀ (inject cx blank) =
    if maxHeaderLength < Text.byteLength (write cx.baggage) then cx₀ else merge cx₀ (kept cx.baggage) := by
  rw [extract, carried_inject hblank, read_write]
  split
  next => exact merge_nil cx₀
  next => rfl

/-! ## Entries -/

/-- Whether an entry of baggage gets through: it has a name, and its member is one of the first in the
header and not too long. -/
structure Passes (b : Baggage) (name value : String) : Prop where
  named : name ≠ ""
  early : ∃ i < 180, b.toList[i]? = some (name, value)
  short : Text.byteLength (writeMember name value) ≤ 4096

theorem mem_kept {b : Baggage} {name value : String} : (name, value) ∈ kept b ↔ Passes b name value := by
  have htake : (name, value) ∈ b.toList.take maxMembers ↔ ∃ i < 180, b.toList[i]? = some (name, value) := by
    rw [List.mem_iff_getElem?]
    refine exists_congr fun i => ?_
    rw [List.getElem?_take]
    exact Option.ite_none_right_eq_some
  rw [kept, List.mem_filter, htake, decide_eq_true_eq]
  exact ⟨fun ⟨early, named, short⟩ => ⟨named, early, short⟩,
    fun ⟨named, early, short⟩ => ⟨early, named, short⟩⟩

/-- What gets through is looked up as itself, since no name is in it twice. -/
theorem findEntry_reverse_kept {b : Baggage} {name value : String} :
    findEntry name (kept b).reverse = some value ↔ Passes b name value := by
  rw [← mem_kept, findEntry_eq_some_iff_of_unique, List.mem_reverse]
  intro other hother hvalue
  have hsublist : (kept b).Sublist b.toList := List.filter_sublist.trans (List.take_sublist ..)
  have hin {v : String} (h : (name, v) ∈ (kept b).reverse) : b.get? name = some v :=
    SortedMap.get?_eq_some_iff.mpr (hsublist.subset (List.mem_reverse.mp h))
  exact Option.some.inj ((hin hother).symm.trans (hin hvalue))

theorem get?_insertAll_kept {b : Baggage} {name value : String} (h : Passes b name value) (m : Baggage) :
    (m.insertAll (kept b)).get? name = some value := by
  rw [SortedMap.get?_insertAll, findEntry_reverse_kept.mpr h, Option.some_or]

theorem get?_insertAll_kept_of_not {b : Baggage} {name : String} (h : ∀ value, ¬ Passes b name value)
    (m : Baggage) : (m.insertAll (kept b)).get? name = m.get? name := by
  have hnone : findEntry name (kept b).reverse = none :=
    Option.eq_none_iff_forall_ne_some.mpr fun value hvalue => h value (findEntry_reverse_kept.mp hvalue)
  rw [SortedMap.get?_insertAll, hnone, Option.none_or]

/-- Within the limits all of it gets through. -/
theorem kept_eq_toList {b : Baggage} (hsize : b.size ≤ 180)
    (h : ∀ e ∈ b.toList, e.1 ≠ "" ∧ Text.byteLength (writeMember e.1 e.2) ≤ 4096) : kept b = b.toList := by
  have htake : b.toList.take maxMembers = b.toList := List.take_of_length_le hsize
  rw [kept, htake, List.filter_eq_self]
  exact fun e he => decide_eq_true (h e he)

/-- Baggage that is written into a blank carrier is read into any context.  Members stand in the header in
the order of the bytes of the names.  If the header is too long nothing is read.  Otherwise the entries
that pass are set as they were, all other names have what they had in the context, and so have all other
keys of it.  Within the limits, and if every entry has a name, all of the baggage is read back. -/
theorem round_trip (hblank : Blank blank) (cx cx₀ : Context) :
    (cx.baggage.toList.Pairwise fun d e => Text.encodeUtf8 d.1.toList < Text.encodeUtf8 e.1.toList) ∧
    (9182 < Text.byteLength (write cx.baggage) →
      Propagator.baggage.extract (Propagator.baggage.inject cx blank) cx₀ = cx₀) ∧
    (Text.byteLength (write cx.baggage) ≤ 9182 →
      (∀ name value, Passes cx.baggage name value →
        (Propagator.baggage.extract (Propagator.baggage.inject cx blank) cx₀).baggage.get? name =
          some value) ∧
      (∀ name, (∀ value, ¬ Passes cx.baggage name value) →
        (Propagator.baggage.extract (Propagator.baggage.inject cx blank) cx₀).baggage.get? name =
          cx₀.baggage.get? name) ∧
      ∀ id, id ≠ baggageKey.id →
        (Propagator.baggage.extract (Propagator.baggage.inject cx blank) cx₀).entries.get? id =
          cx₀.entries.get? id) ∧
    (Text.byteLength (write cx.baggage) ≤ 9182 → cx.baggage.size ≤ 180 →
      (∀ e ∈ cx.baggage.toList, e.1 ≠ "" ∧ Text.byteLength (writeMember e.1 e.2) ≤ 4096) →
      (Propagator.baggage.extract (Propagator.baggage.inject cx blank) .empty).baggage = cx.baggage) := by
  have hextract (cx₀ : Context) : Propagator.baggage.extract (Propagator.baggage.inject cx blank) cx₀ =
      if 9182 < Text.byteLength (write cx.baggage) then cx₀ else merge cx₀ (kept cx.baggage) :=
    extract_inject hblank cx cx₀
  refine ⟨cx.baggage.pairwise_encodeUtf8_lt, fun hlong => ?_, fun hshort => ?_, fun hshort hsize hall => ?_⟩
  · rw [hextract, if_pos hlong]
  · rw [hextract, if_neg (Nat.not_lt.mpr hshort), baggage_merge]
    exact ⟨fun _ _ h => get?_insertAll_kept h _, fun _ h => get?_insertAll_kept_of_not h _,
      fun _ h => get?_entries_merge cx₀ _ h⟩
  · rw [hextract, if_neg (Nat.not_lt.mpr hshort), baggage_merge, kept_eq_toList hsize hall]
    exact SortedMap.ofList_toList cx.baggage

/-- A context with separators, escapes, blanks and characters of all sizes in its baggage. -/
def mixedContext : Context :=
  .withBaggage .empty (.ofList [("user id", "a=b,c;d %41"), ("é", "\t€ 😀 "), (" ", "")])

/-- A context that has one of the names, and another one. -/
def otherContext : Context := .withBaggage .empty (.ofList [("é", "old"), ("own", "1")])

theorem round_trip_of_mixed : Blank HeaderMap.empty ∧ Text.byteLength (write mixedContext.baggage) ≤ 9182 ∧
    Passes mixedContext.baggage "é" "\t€ 😀 " ∧ (∀ value, ¬ Passes mixedContext.baggage "own" value) ∧
    (extract otherContext (inject mixedContext HeaderMap.empty)).baggage.get? "é" = some "\t€ 😀 " ∧
    (extract otherContext (inject mixedContext HeaderMap.empty)).baggage.get? "own" = some "1" ∧
    (extract .empty (inject mixedContext HeaderMap.empty)).baggage = mixedContext.baggage := by
  have hlist : mixedContext.baggage.toList = [(" ", ""), ("user id", "a=b,c;d %41"), ("é", "\t€ 😀 ")] := by
    decide +kernel
  have hshort : Text.byteLength (write mixedContext.baggage) ≤ 9182 := by decide +kernel
  have hpasses : Passes mixedContext.baggage "é" "\t€ 😀 " :=
    ⟨by decide, ⟨2, by decide, by rw [hlist]; rfl⟩, by decide +kernel⟩
  have hother : ∀ value, ¬ Passes mixedContext.baggage "own" value := by
    rintro value ⟨-, ⟨i, -, hi⟩, -⟩
    have hm := List.mem_of_getElem? hi
    rw [hlist] at hm
    simp at hm
  obtain ⟨-, -, hread, -⟩ := round_trip HeaderMap.blank_empty mixedContext otherContext
  obtain ⟨-, -, -, hall⟩ := round_trip HeaderMap.blank_empty mixedContext .empty
  obtain ⟨hset, hkept, -⟩ := hread hshort
  exact ⟨HeaderMap.blank_empty, hshort, hpasses, hother, hset _ _ hpasses,
    (hkept _ hother).trans (by decide +kernel),
    hall hshort (by decide +kernel) (by rw [hlist]; decide +kernel)⟩

end BaggageHeader

end Telemetry
