import Mathlib.Algebra.BigOperators.Ring.List
import Mathlib.Data.List.Perm.Subperm
import Telemetry.Proofs.Propagation.BaggageRoundTrip
import Telemetry.Proofs.Propagation.Lengths

/-!
# Baggage is passed on

A service that passes baggage on writes what it has read.  Of the three limits of the reader one does not
matter then, since there are no more entries than members have been read.  The others are limits on bytes,
and the text that is written need not be the one that has come.  What was sent raw is written with escapes
and takes up to three times the room (`byteLength_write_le`).  So entries may get lost, or all of them,
though they have just been within the limits (`forwarding_keeps`).  Nothing is lost of a header that keeps
to a third of the limits, and raw text is where this bound is met (`IsRaw.passedOn_eq_self_iff`).  What has
been passed on once is not lost by passing it on again (`passedOn_passedOn`).
-/

namespace Telemetry

/-! ## Maps of pairs -/

namespace SortedMap

variable {κ β : Type} [Ord κ] [Std.LawfulEqOrd κ]

theorem nodup_toList (m : SortedMap κ β) : m.toList.Nodup :=
  m.sorted.imp fun {d e} h he => by simp [he] at h

variable [Std.TransOrd κ]

theorem mem_toList_insertAll {m : SortedMap κ β} {pairs : List (κ × β)} {e : κ × β}
    (h : e ∈ (m.insertAll pairs).toList) : e ∈ m.toList ∨ e ∈ pairs := by
  induction pairs generalizing m with
  | nil => exact .inl h
  | cons d pairs ih =>
    rcases ih h with h | h
    · rcases mem_insertEntry h with rfl | h
      · exact .inr List.mem_cons_self
      · exact .inl h
    · exact .inr (List.mem_cons_of_mem d h)

/-- The entries of a map of pairs are among the pairs, each once. -/
theorem toList_ofList_subperm (pairs : List (κ × β)) : (ofList pairs).toList.Subperm pairs :=
  (nodup_toList _).subperm fun _ h => (mem_toList_insertAll h).resolve_left List.not_mem_nil

theorem toList_ofList [DecidableEq κ] {pairs : List (κ × β)} (h : Ascending pairs) :
    (ofList pairs).toList = pairs :=
  congrArg toList (ofList_toList ⟨pairs, h⟩)

end SortedMap

namespace BaggageHeader

/-! ## Lengths -/

theorem byteLength_readText_le (cs : List Char) : Text.byteLength (readText cs).toList ≤ Text.byteLength cs := by
  rw [readText, String.toList_ofList]
  exact (Text.byteLength_decodePercent_le _).trans (Text.byteLength_le_of_sublist (Text.trim_sublist cs))

/-- What is read of a member has a name, and is written with at most three bytes for one. -/
theorem of_readMember? {member : List Char} {e : String × String} (h : readMember? member = some e) :
    e.1 ≠ "" ∧ Text.byteLength (writeMember e.1 e.2) + 1 ≤ 3 * Text.byteLength member := by
  unfold readMember? at h
  split at h
  next => cases h
  next =>
    obtain ⟨⟨name, value⟩, hcut, hread⟩ := Option.bind_eq_some_iff.mp h
    dsimp only at hread
    split at hread
    next => cases hread
    next hname =>
      cases hread
      refine ⟨by simpa using hname, ?_⟩
      have hbare : Text.byteLength ((Text.fields ';' member).headD []) ≤ Text.byteLength member := by
        cases hfields : Text.fields ';' member with
        | nil => exact absurd hfields (Text.fields_ne_nil ';' member)
        | cons f fs => exact Text.byteLength_le_of_mem_fields (hfields ▸ List.mem_cons_self)
      have hequals : '='.utf8Size = 1 := rfl
      have hn := (Text.byteLength_encodePercent_le isEscaped _).trans
        (Nat.mul_le_mul_left 3 (byteLength_readText_le name))
      have hv := (Text.byteLength_encodePercent_le isEscaped _).trans
        (Nat.mul_le_mul_left 3 (byteLength_readText_le value))
      rw [(Text.cut_eq_some hcut).1, Text.byteLength_append, Text.byteLength_cons, hequals] at hbare
      rw [writeMember, Text.byteLength_append, Text.byteLength_cons, hequals]
      dsimp only
      omega

theorem exists_member {header : List Char} {e : String × String} (h : e ∈ read header) :
    ∃ member ∈ Text.fields ',' header, readMember? member = some e := by
  unfold read at h
  split at h
  next => cases h
  next =>
    obtain ⟨member, hmember, he⟩ := List.mem_filterMap.mp h
    exact ⟨member, List.mem_of_mem_take hmember, he⟩

theorem length_read_le (header : List Char) : (read header).length ≤ 180 := by
  unfold read
  split
  next => exact Nat.zero_le _
  next => exact (List.length_filterMap_le ..).trans (List.length_take_le ..)

/-- A sum over what is found is at most one over where it was looked for. -/
theorem sum_filterMap_le {α β : Type} {f : α → Option β} {w : β → Nat} {u : α → Nat}
    (h : ∀ x y, f x = some y → w y ≤ u x) (xs : List α) : ((xs.filterMap f).map w).sum ≤ (xs.map u).sum := by
  induction xs with
  | nil => exact Nat.le_refl 0
  | cons x xs ih =>
    rw [List.map_cons, List.sum_cons]
    cases hx : f x with
    | none =>
      rw [List.filterMap_cons_none hx]
      exact ih.trans (Nat.le_add_left ..)
    | some y =>
      rw [List.filterMap_cons_some hx, List.map_cons, List.sum_cons]
      exact Nat.add_le_add (h x y hx) ih

/-- Members as they are written again, with a separator for each. -/
theorem sum_read_le (header : List Char) :
    ((read header).map fun e => Text.byteLength (writeMember e.1 e.2) + 1).sum ≤
      3 * Text.byteLength header := by
  unfold read
  split
  next => exact Nat.zero_le _
  next =>
    refine (sum_filterMap_le (fun _ _ h => (of_readMember? h).2) _).trans ?_
    rw [List.sum_map_mul_left]
    refine Nat.mul_le_mul_left 3 (Nat.le_trans ?_ (Text.sum_byteLength_fields_le ',' header))
    exact ((List.take_sublist ..).map _).sum_le_sum fun _ _ => Nat.zero_le _

/-- Written again, a header takes at most three times the room. -/
theorem byteLength_write_le (header : List Char) :
    Text.byteLength (write (.ofList (read header))) ≤ 3 * Text.byteLength header := by
  obtain ⟨es, hperm, hsublist⟩ := SortedMap.toList_ofList_subperm (read header)
  have hsum := (hsublist.map fun e => Text.byteLength (writeMember e.1 e.2) + 1).sum_le_sum
    fun _ _ => Nat.zero_le _
  rw [(hperm.map _).sum_eq] at hsum
  have hmembers := hsum.trans (sum_read_le header)
  have hcomma : ','.utf8Size = 1 := rfl
  rw [List.sum_map_add, List.map_const', List.sum_replicate_nat, Nat.mul_one] at hmembers
  rw [write_eq, Text.byteLength_join, List.length_map, List.map_map, hcomma, Nat.mul_one]
  exact (Nat.add_le_add_left (Nat.sub_le ..) _).trans hmembers

/-! ## What is read -/

section Reading

variable {γ : Type} [HeaderSource γ]

/-- The baggage that a carrier gives to a context without any. -/
def received (c : γ) : Baggage := (Propagator.baggage.extract c .empty).baggage

theorem received_eq (c : γ) : received c = .ofList (carried c) := baggage_merge .empty (carried c)

theorem received_of_header {c : γ} {header : String}
    (h : HeaderSource.get? c headerName = some header) : received c = .ofList (read header.toList) := by
  rw [received_eq, carried, h]
  rfl

/-- Whether baggage may have been read: its entries have names, and there are not too many. -/
structure Readable (b : Baggage) : Prop where
  named : ∀ e ∈ b.toList, e.1 ≠ ""
  few : b.size ≤ 180

theorem readable_received (c : γ) : Readable (received c) := by
  have hcarried : (∀ e ∈ carried c, e.1 ≠ "") ∧ (carried c).length ≤ 180 := by
    cases hheader : HeaderSource.get? c headerName with
    | none =>
      rw [carried, hheader]
      exact ⟨fun e he => absurd he List.not_mem_nil, Nat.zero_le 180⟩
    | some header =>
      rw [carried, hheader]
      refine ⟨fun e he => ?_, length_read_le header.toList⟩
      obtain ⟨member, -, hmember⟩ := exists_member he
      exact (of_readMember? hmember).1
  have hsubperm := SortedMap.toList_ofList_subperm (carried c)
  rw [received_eq]
  exact ⟨fun e he => hcarried.1 e (hsubperm.subset he), hsubperm.length_le.trans hcarried.2⟩

end Reading

/-! ## Raw text -/

/-- A text that may be sent as it is, but not written so: it has no ASCII and no blanks. -/
def IsRaw (text : String) : Prop := ∀ c ∈ text.toList, 128 ≤ c.toNat ∧ Text.isBlank c = false

/-- A member with such a text as its value, as it may be sent. -/
def rawMember (text : String) : List Char := "name".toList ++ '=' :: text.toList

/-- The headers of a request with this member. -/
def rawHeaders (text : String) : HeaderMap := HeaderMap.empty.put "baggage" ("name=" ++ text)

theorem get?_rawHeaders (text : String) :
    HeaderSource.get? (rawHeaders text) "baggage" = some ("name=" ++ text) :=
  (MapCarrier.get?_put ..).trans (if_pos rfl)

theorem byteLength_rawMember (text : String) :
    Text.byteLength (rawMember text) = 5 + Text.byteLength text.toList := by
  rw [rawMember, Text.byteLength_append, Text.byteLength_cons, ← Nat.add_assoc]
  rfl

namespace IsRaw

variable {text : String} (h : IsRaw text)
include h

theorem not_mem {c : Char} (hc : c.toNat < 128) : c ∉ text.toList :=
  fun hm => absurd (h c hm).1 (Nat.not_le.mpr hc)

theorem readText_eq : readText text.toList = text := by
  rw [readText, Text.trim_of_no_blank fun c hc => (h c hc).2,
    Text.decodePercent_of_not_mem (h.not_mem (by decide)), String.ofList_toList]

theorem fields_rawMember {sep : Char} (hascii : sep.toNat < 128) (hname : sep ∉ "name=".toList) :
    Text.fields sep (rawMember text) = [rawMember text] := by
  have hin : rawMember text = "name=".toList ++ text.toList := rfl
  refine Text.fields_of_not_mem ?_
  rw [hin, List.mem_append, not_or]
  exact ⟨hname, h.not_mem hascii⟩

theorem readMember?_rawMember (hlength : Text.byteLength text.toList ≤ 4091) :
    readMember? (rawMember text) = some ("name", text) := by
  have hcut : Text.cut '=' (rawMember text) = some ("name".toList, text.toList) :=
    Text.cut_append_cons (by decide) text.toList
  have hname : readText "name".toList = "name" := by decide
  have hshort : ¬ maxMemberLength < Text.byteLength (rawMember text) := by
    rw [byteLength_rawMember, maxMemberLength]
    omega
  rw [readMember?, if_neg hshort, h.fields_rawMember (by decide) (by decide)]
  dsimp only [List.headD_cons]
  rw [hcut, Option.bind_some, hname, h.readText_eq]
  rfl

/-- As long as it is short the text is read. -/
theorem received_rawHeaders (hlength : Text.byteLength text.toList ≤ 4091) :
    received (rawHeaders text) = .ofList [("name", text)] := by
  have hheader : ("name=" ++ text).toList = rawMember text := String.toList_append
  have hshort : ¬ maxHeaderLength < Text.byteLength (rawMember text) := by
    rw [byteLength_rawMember, maxHeaderLength]
    omega
  rw [received_of_header (get?_rawHeaders text), hheader, read, if_neg hshort,
    h.fields_rawMember (by decide) (by decide), List.take_of_length_le (Nat.le_add_left 1 179),
    List.filterMap_cons_some (h.readMember?_rawMember hlength)]
  rfl

/-- Written again, the text takes three times the room. -/
theorem byteLength_writeMember :
    Text.byteLength (writeMember "name" text) = 5 + 3 * Text.byteLength text.toList := by
  have hname : Text.byteLength (Text.encodePercent isEscaped "name".toList) = 4 := by decide
  rw [writeMember, Text.byteLength_append, Text.byteLength_cons, hname,
    Text.byteLength_encodePercent_of_not_ascii fun c hc => (h c hc).1]
  exact (Nat.add_assoc ..).symm

end IsRaw

/-- So many letters of two bytes each. -/
def umlauts (n : Nat) : String := String.ofList (List.replicate n 'ü')

theorem isRaw_umlauts (n : Nat) : IsRaw (umlauts n) := by
  intro c hc
  rw [umlauts, String.toList_ofList] at hc
  rw [List.eq_of_mem_replicate hc]
  decide

theorem byteLength_umlauts (n : Nat) : Text.byteLength (umlauts n).toList = 2 * n := by
  rw [umlauts, String.toList_ofList, Text.byteLength_eq_sum, List.map_replicate, List.sum_replicate_nat,
    Nat.mul_comm]
  rfl

/-! ## What is read again -/

section Passing

variable {γ : Type} [HeaderSource γ] [HeaderSink γ]

/-- The baggage that arrives when baggage is written into a carrier. -/
def passedOn (blank : γ) (b : Baggage) : Baggage :=
  received (Propagator.baggage.inject (.withBaggage .empty b) blank)

variable [MapCarrier γ] {blank : γ} (hblank : Blank blank) {b : Baggage}
include hblank

theorem passedOn_eq (b : Baggage) : passedOn blank b =
    if 9182 < Text.byteLength (write b) then .empty else .ofList (kept b) := by
  have hread : carried (inject (.withBaggage .empty b) blank) = read (write b) := by
    rw [carried_inject hblank, Context.baggage_withBaggage]
  rw [passedOn, received_eq, Propagator.inject, hread, read_write, apply_ite SortedMap.ofList]
  rfl

theorem get?_passedOn (h : Readable b) (hlength : Text.byteLength (write b) ≤ 9182) {name value : String} :
    (passedOn blank b).get? name = some value ↔
      b.get? name = some value ∧ Text.byteLength (writeMember name value) ≤ 4096 := by
  rw [passedOn_eq hblank, if_neg (Nat.not_lt.mpr hlength), SortedMap.get?_ofList, findEntry_reverse_kept,
    SortedMap.get?_eq_some_iff]
  constructor
  · rintro ⟨-, ⟨i, -, hi⟩, hshort⟩
    exact ⟨List.mem_of_getElem? hi, hshort⟩
  · rintro ⟨hmem, hshort⟩
    obtain ⟨i, hi⟩ := List.mem_iff_getElem?.mp hmem
    have hindex : i < b.size := (List.getElem?_eq_some_iff.mp hi).1
    exact ⟨h.named _ hmem, ⟨i, Nat.lt_of_lt_of_le hindex h.few, hi⟩, hshort⟩

theorem passedOn_eq_self_iff (h : Readable b) : passedOn blank b = b ↔
    Text.byteLength (write b) ≤ 9182 ∧
      ∀ e ∈ b.toList, Text.byteLength (writeMember e.1 e.2) ≤ 4096 := by
  constructor
  · intro hsame
    have hlength : Text.byteLength (write b) ≤ 9182 := by
      by_contra hlong
      -- nothing is read, and nothing is not too long
      have hempty := passedOn_eq hblank b
      rw [if_pos (Nat.lt_of_not_le hlong), hsame] at hempty
      rw [hempty] at hlong
      exact hlong (Nat.zero_le _)
    refine ⟨hlength, fun e he => ?_⟩
    have hget : (passedOn blank b).get? e.1 = some e.2 := by
      rw [hsame]
      exact SortedMap.get?_eq_some_iff.mpr he
    exact ((get?_passedOn hblank h hlength).mp hget).2
  · rintro ⟨hlength, hshort⟩
    refine SortedMap.ext_get? fun name => Option.ext fun value => ?_
    rw [get?_passedOn hblank h hlength]
    exact and_iff_left_of_imp fun hget => hshort (name, value) (SortedMap.get?_eq_some_iff.mp hget)

/-- What has got through gets through again, since it takes no more room than before. -/
theorem passedOn_passedOn (b : Baggage) :
    passedOn blank (passedOn blank b) = passedOn blank b := by
  have hreadable : Readable (passedOn blank b) := readable_received _
  refine (passedOn_eq_self_iff hblank hreadable).mpr ?_
  rw [passedOn_eq hblank]
  split
  next => exact ⟨Nat.zero_le 9182, fun e he => absurd he List.not_mem_nil⟩
  next hlength =>
    have hsublist : (kept b).Sublist b.toList := List.filter_sublist.trans (List.take_sublist ..)
    have hlist : (SortedMap.ofList (kept b)).toList = kept b :=
      SortedMap.toList_ofList (b.sorted.sublist hsublist)
    rw [write_eq, hlist]
    refine ⟨?_, fun e he => (mem_kept.mp he).short⟩
    exact (Text.byteLength_join_le_of_sublist ',' (hsublist.map _)).trans (Nat.not_lt.mp hlength)

/-- A raw text is not lost if it takes no more than a third of the room for a member. -/
theorem IsRaw.passedOn_eq_self_iff {text : String} (h : IsRaw text)
    (hlength : Text.byteLength text.toList ≤ 4091) :
    passedOn blank (received (rawHeaders text)) = received (rawHeaders text) ↔
      Text.byteLength text.toList ≤ 1363 := by
  have hwrite : Text.byteLength (write (.ofList [("name", text)])) = 5 + 3 * Text.byteLength text.toList :=
    h.byteLength_writeMember
  have hmember : (∀ e ∈ (SortedMap.ofList [("name", text)]).toList,
      Text.byteLength (writeMember e.1 e.2) ≤ 4096) ↔ 5 + 3 * Text.byteLength text.toList ≤ 4096 := by
    rw [← h.byteLength_writeMember]
    exact List.forall_mem_singleton
  rw [BaggageHeader.passedOn_eq_self_iff hblank (readable_received _), h.received_rawHeaders hlength, hwrite,
    hmember]
  omega

/-! ## Forwarding -/

/-- A service reads a header and passes the baggage on.  All of it arrives just if the header that is
written then keeps to the limits on bytes, which are those of the reader.  If that header is too long
nothing arrives, and otherwise the entries do whose members are not too long.  The number of members is no
limit, and a header that has come is never too long if it keeps to a third of these limits.  Nothing more
is lost by passing baggage on once more. -/
theorem forwarding_keeps {δ : Type} [HeaderSource δ] {c : δ} {header : String}
    (h : HeaderSource.get? c "baggage" = some header) :
    (passedOn blank (received c) = received c ↔
      Text.byteLength (write (received c)) ≤ 9182 ∧
        ∀ e ∈ (received c).toList, Text.byteLength (writeMember e.1 e.2) ≤ 4096) ∧
    (9182 < Text.byteLength (write (received c)) → passedOn blank (received c) = .empty) ∧
    (Text.byteLength (write (received c)) ≤ 9182 → ∀ name value,
      (passedOn blank (received c)).get? name = some value ↔
        (received c).get? name = some value ∧ Text.byteLength (writeMember name value) ≤ 4096) ∧
    (Text.byteLength header.toList ≤ 3060 →
      (∀ member ∈ Text.fields ',' header.toList, Text.byteLength member ≤ 1365) →
      passedOn blank (received c) = received c) ∧
    passedOn blank (passedOn blank (received c)) = passedOn blank (received c) := by
  have hreadable := readable_received c
  have hsame := passedOn_eq_self_iff hblank hreadable
  refine ⟨hsame, fun hlong => ?_, fun hlength _ _ => get?_passedOn hblank hreadable hlength,
    fun hheader hmembers => ?_, passedOn_passedOn hblank _⟩
  · rw [passedOn_eq hblank, if_pos hlong]
  · have hlist := received_of_header h
    refine hsame.mpr ⟨?_, fun e he => ?_⟩
    · have hwrite := byteLength_write_le header.toList
      rw [hlist]
      omega
    · rw [hlist] at he
      obtain ⟨member, hmember, hread⟩ :=
        exists_member ((SortedMap.toList_ofList_subperm _).subset he)
      have hlength := (of_readMember? hread).2
      have hthird := hmembers member hmember
      omega

end Passing

theorem forwarding_keeps_of_umlauts :
    HeaderSource.get? (HeaderMap.ofList [("baggage", "user=Jürgen ;p=1, a=,=x,é=%C3")]) "baggage" =
      some "user=Jürgen ;p=1, a=,=x,é=%C3" ∧
    Blank HeaderMap.empty ∧
    passedOn HeaderMap.empty (received (HeaderMap.ofList [("baggage", "user=Jürgen ;p=1, a=,=x,é=%C3")])) =
      received (HeaderMap.ofList [("baggage", "user=Jürgen ;p=1, a=,=x,é=%C3")]) ∧
    (received (rawHeaders (umlauts 683))).get? "name" = some (umlauts 683) ∧
    (passedOn HeaderMap.empty (received (rawHeaders (umlauts 683)))).get? "name" ≠ some (umlauts 683) := by
  have hheader : HeaderSource.get? (HeaderMap.ofList [("baggage", "user=Jürgen ;p=1, a=,=x,é=%C3")])
      "baggage" = some "user=Jürgen ;p=1, a=,=x,é=%C3" := by decide +kernel
  obtain ⟨-, -, -, hthird, -⟩ := forwarding_keeps HeaderMap.blank_empty hheader
  obtain ⟨-, -, hread, -, -⟩ := forwarding_keeps HeaderMap.blank_empty (get?_rawHeaders (umlauts 683))
  have hraw := (isRaw_umlauts 683).received_rawHeaders (by rw [byteLength_umlauts]; decide)
  have hmember : Text.byteLength (writeMember "name" (umlauts 683)) = 4103 := by
    rw [(isRaw_umlauts 683).byteLength_writeMember, byteLength_umlauts]
  have hwrite : Text.byteLength (write (received (rawHeaders (umlauts 683)))) ≤ 9182 := by
    rw [hraw]
    exact hmember.trans_le (by decide)
  refine ⟨hheader, HeaderMap.blank_empty, hthird (by decide +kernel) (by decide +kernel), ?_, fun hname => ?_⟩
  · rw [hraw]
    rfl
  · have hshort := ((hread hwrite "name" (umlauts 683)).mp hname).2
    rw [hmember] at hshort
    exact absurd hshort (by decide)

/-- A member that is short enough as it has come is too long when it is written again. -/
theorem raw_text_lost : ¬ ∀ header : String,
    passedOn HeaderMap.empty (received (HeaderMap.empty.put "baggage" header)) =
      received (HeaderMap.empty.put "baggage" header) := by
  intro h
  have hsame : passedOn HeaderMap.empty (received (rawHeaders (umlauts 683))) =
      received (rawHeaders (umlauts 683)) := h ("name=" ++ umlauts 683)
  rw [(isRaw_umlauts 683).passedOn_eq_self_iff HeaderMap.blank_empty (by rw [byteLength_umlauts]; decide),
    byteLength_umlauts] at hsame
  exact absurd hsame (by decide)

end BaggageHeader

end Telemetry
