import Telemetry.Proofs.Propagation.Codecs

/-!
# Trace states and their headers

A trace state is read from a header, and members are set in it.  Whichever way it has come about, its
keys are distinct, there are not more of them than a header may have, and keys and values are of the
characters that they may be of (`Reachable.wellFormed`).

A header is read with the blanks around its members taken off.  This does no harm to a key, which has
no blanks, nor to the front of a value, which stands behind the key.  But a value may end with blanks,
and those are lost.  Of a value that is nothing but blanks there is then nothing left, and a member
without a value makes a reader drop the header as a whole (`WellFormed.ofHeader_header`).  No header
writes such a value, but setting a member does not refuse it.  So a state is read back just when none
of its values ends with a blank.
-/

namespace Telemetry

/-! ## Blank ends -/

namespace Text

/-- No visible character of ASCII is blank. -/
theorem isBlank_of_visible {c : Char} (h : '!' ≤ c) (h' : c ≤ '~') : isBlank c = false := by
  have hlow : 33 ≤ c.toNat := UInt32.le_iff_toNat_le.mp h
  have hhigh : c.toNat ≤ 126 := UInt32.le_iff_toNat_le.mp h'
  simp only [isBlank, isBlankCode, Bool.or_eq_false_iff, Bool.and_eq_false_iff, decide_eq_false_iff_not,
    beq_eq_false_iff_ne]
  omega

/-- What stands in front of a character that is no blank stays when the end is trimmed. -/
theorem trimRight_append_cons {c : Char} (h : isBlank c = false) (before after : List Char) :
    trimRight (before ++ c :: after) = before ++ c :: trimRight after := by
  have hc : (c :: before.reverse).dropWhile isBlank = c :: before.reverse := trimLeft_cons_of_not_blank h
  have hrev : (before ++ c :: after).reverse = after.reverse ++ c :: before.reverse := by simp
  rw [trimRight, hrev, List.dropWhile_append, hc, trimRight]
  split
  next hnil =>
    rw [List.isEmpty_iff.mp hnil]
    simp
  next => simp

/-- A text stays as it is when the end is trimmed, if it does not end with a blank. -/
theorem trimRight_eq_self_iff {cs : List Char} :
    trimRight cs = cs ↔ ∀ c ∈ cs.getLast?, isBlank c = false := by
  have hlast : trimRight cs = cs ↔ ∀ h : cs ≠ [], ¬ isBlank (cs.getLast h) = true :=
    List.rdropWhile_eq_self_iff
  rw [hlast]
  constructor
  · intro h c hc
    obtain ⟨hne, rfl⟩ := List.mem_getLast?_eq_getLast hc
    simpa using h hne
  · intro h hne
    simpa using h _ (List.getLast?_eq_some_getLast hne)

end Text

namespace TraceState

/-! ## Well-formed states -/

/-- What is true of a state however it has come about. -/
structure WellFormed (s : TraceState) : Prop where
  nodup : (s.members.map (·.1)).Nodup
  few : s.members.length ≤ maxMembers
  proper : ∀ m ∈ s.members, isKey m.1.toList = true ∧ isValue m.2.toList = true

/-- The states that come about: those of headers, and those with a member set in one that has come
about. -/
inductive Reachable : TraceState → Prop where
  | read (header : String) : Reachable (ofHeader header)
  | set {s t : TraceState} {key value : String} :
    Reachable s → s.insert? key value = some t → Reachable t

theorem proper_of_member? {f : List Char} {m : String × String} (h : member? f = some m) :
    isKey m.1.toList = true ∧ isValue m.2.toList = true := by
  obtain ⟨⟨key, value⟩, -, hm⟩ := Option.bind_eq_some_iff.mp h
  obtain ⟨hproper, hm⟩ := Option.ite_none_right_eq_some.mp hm
  rw [← Option.some.inj hm, String.toList_ofList, String.toList_ofList]
  simpa using hproper

theorem proper_of_mapM {fs : List (List Char)} {ms : List (String × String)}
    (h : fs.mapM member? = some ms) : ∀ m ∈ ms, isKey m.1.toList = true ∧ isValue m.2.toList = true := by
  induction fs generalizing ms with
  | nil =>
      cases h
      exact List.forall_mem_nil _
  | cons f fs ih =>
      rw [List.mapM_cons] at h
      obtain ⟨first, hfirst, h⟩ := Option.bind_eq_some_iff.mp h
      obtain ⟨rest, hrest, h⟩ := Option.bind_eq_some_iff.mp h
      cases h
      intro m hm
      rcases List.mem_cons.mp hm with rfl | hm
      · exact proper_of_member? hfirst
      · exact ih hrest m hm

theorem wellFormed_ofHeader (header : String) : (ofHeader header).WellFormed := by
  cases hm : members? header.toList with
  | none =>
      have he : ofHeader header = empty := by rw [ofHeader, hm]; rfl
      rw [he]
      exact ⟨List.nodup_nil, Nat.zero_le _, List.forall_mem_nil _⟩
  | some ms =>
      have he : ofHeader header = ⟨ms⟩ := by rw [ofHeader, hm]; rfl
      obtain ⟨hms, hlimits⟩ := Option.filter_eq_some_iff.mp hm
      rw [Bool.and_eq_true, decide_eq_true_eq, decide_eq_true_eq] at hlimits
      rw [he]
      exact ⟨hlimits.1, hlimits.2, proper_of_mapM hms⟩

theorem WellFormed.insert? {s t : TraceState} {key value : String} (h : s.WellFormed)
    (ht : s.insert? key value = some t) : t.WellFormed := by
  obtain ⟨hproper, ht⟩ := Option.ite_none_right_eq_some.mp ht
  obtain rfl := Option.some.inj ht
  have hkept : ∀ m ∈ ((key, value) :: s.members.filter (·.1 != key)).take maxMembers,
      m = (key, value) ∨ m ∈ s.members := by
    intro m hm
    rcases List.mem_cons.mp (List.mem_of_mem_take hm) with rfl | hm
    · exact .inl rfl
    · exact .inr (List.mem_filter.mp hm).1
  refine ⟨?_, List.length_take_le .., fun m hm => ?_⟩
  · have hothers : ((s.members.filter (·.1 != key)).map (·.1)).Nodup :=
      h.nodup.sublist (List.filter_sublist.map _)
    have hkey : key ∉ (s.members.filter (·.1 != key)).map (·.1) := by simp
    rw [List.map_take]
    exact (List.nodup_cons.mpr ⟨hkey, hothers⟩).sublist (List.take_sublist ..)
  · rcases hkept m hm with rfl | hm
    · simpa using hproper
    · exact h.proper m hm

theorem Reachable.wellFormed {s : TraceState} (h : Reachable s) : s.WellFormed := by
  induction h with
  | read header => exact wellFormed_ofHeader header
  | set _ hset ih => exact ih.insert? hset

/-! ## Members -/

theorem isBlank_of_isKeyChar {c : Char} (h : isKeyChar c = true) : Text.isBlank c = false := by
  simp only [isKeyChar, Bool.or_eq_true, Bool.and_eq_true, decide_eq_true_eq, List.contains_iff_mem,
    List.mem_cons, List.not_mem_nil, or_false] at h
  rcases h with (h | h) | h
  · exact Text.isBlank_of_visible (Char.le_trans (by decide) h.1) (Char.le_trans h.2 (by decide))
  · exact Text.isBlank_of_visible (Char.le_trans (by decide) h.1) (Char.le_trans h.2 (by decide))
  · rcases h with rfl | rfl | rfl | rfl | rfl <;> decide

/-- The only blank of a value is the space. -/
theorem isBlank_iff_of_isValueChar {c : Char} (h : isValueChar c = true) :
    Text.isBlank c = true ↔ c = ' ' := by
  simp only [isValueChar, Bool.and_eq_true, decide_eq_true_eq, bne_iff_ne] at h
  constructor
  · intro hc
    by_contra hne
    have hlow : '!' ≤ c := by
      have h1 : 32 ≤ c.toNat := UInt32.le_iff_toNat_le.mp h.1.1.1
      have h2 : c.toNat ≠ 32 := fun e => hne (Char.toNat_inj.mp e)
      exact UInt32.le_iff_toNat_le.mpr (Nat.lt_of_le_of_ne h1 (Ne.symm h2))
    rw [Text.isBlank_of_visible hlow h.1.1.2] at hc
    cases hc
  · rintro rfl
    decide

theorem isWord_eq_true_iff {allowed : Char → Bool} {cs : List Char} :
    isWord allowed cs = true ↔ cs ≠ [] ∧ cs.length ≤ 256 ∧ ∀ c ∈ cs, allowed c = true := by
  simp [isWord, and_assoc]

theorem not_mem_of_isWord {allowed : Char → Bool} {cs : List Char} (h : isWord allowed cs = true) {c : Char}
    (hc : allowed c = false) : c ∉ cs := by
  intro hm
  rw [(isWord_eq_true_iff.mp h).2.2 c hm] at hc
  cases hc

/-- What is left of a value, which is part of it, is a value if anything is left. -/
theorem isValue_trimRight {cs : List Char} (h : isValue cs = true) :
    isValue (Text.trimRight cs) = true ↔ ∃ c ∈ cs, c ≠ ' ' := by
  obtain ⟨-, hlength, hchars⟩ := isWord_eq_true_iff.mp h
  have hfront : Text.trimRight cs <+: cs := List.rdropWhile_prefix ..
  have hnil : Text.trimRight cs = [] ↔ ∀ c ∈ cs, Text.isBlank c = true := List.rdropWhile_eq_nil_iff
  have hspaces : (∀ c ∈ cs, Text.isBlank c = true) ↔ ∀ c ∈ cs, c = ' ' :=
    forall₂_congr fun c hc => isBlank_iff_of_isValueChar (hchars c hc)
  rw [isValue, isWord_eq_true_iff, ne_eq, hnil, hspaces]
  constructor
  · rintro ⟨hne, -⟩
    simpa using hne
  · intro hne
    exact ⟨by simpa using hne, hfront.length_le.trans hlength, fun c hc => hchars c (hfront.subset hc)⟩

/-- A member without the blanks at the end of its value. -/
def trimmed (m : String × String) : String × String := (m.1, String.ofList (Text.trimRight m.2.toList))

theorem toList_trimmed (m : String × String) : (trimmed m).2.toList = Text.trimRight m.2.toList :=
  String.toList_ofList

theorem trimmed_eq_self_iff {m : String × String} (h : isValue m.2.toList = true) :
    trimmed m = m ↔ m.2.toList.getLast? ≠ some ' ' := by
  have hlast : ∀ c ∈ m.2.toList.getLast?, Text.isBlank c = true ↔ c = ' ' := fun c hc =>
    isBlank_iff_of_isValueChar ((isWord_eq_true_iff.mp h).2.2 c (List.mem_of_getLast? hc))
  have hvalue : (trimmed m).2 = m.2 ↔ Text.trimRight m.2.toList = m.2.toList := by
    rw [← String.toList_inj, toList_trimmed]
  rw [Prod.ext_iff, hvalue, Text.trimRight_eq_self_iff]
  constructor
  · rintro ⟨-, hend⟩ hspace
    have hblank := hend ' ' hspace
    revert hblank
    decide
  · intro hend
    refine ⟨rfl, fun c hc => ?_⟩
    rw [Bool.eq_false_iff]
    intro hblank
    obtain rfl := (hlast c hc).mp hblank
    exact hend hc

theorem trim_memberText {m : String × String} (h : isKey m.1.toList = true) :
    Text.trim (memberText m) = memberText (trimmed m) := by
  obtain ⟨hne, -, hchars⟩ := isWord_eq_true_iff.mp h
  obtain ⟨c, cs, hkey⟩ := List.exists_cons_of_ne_nil hne
  have hc : Text.isBlank c = false := isBlank_of_isKeyChar (hchars c (hkey ▸ List.mem_cons_self))
  have hleft : Text.trimLeft (memberText m) = memberText m := by
    rw [memberText, hkey, List.cons_append]
    exact Text.trimLeft_cons_of_not_blank hc
  rw [Text.trim, hleft, memberText, Text.trimRight_append_cons (by decide), memberText, toList_trimmed]
  rfl

theorem member?_memberText {m : String × String} (h : isKey m.1.toList = true) :
    member? (memberText m) = if isValue m.2.toList = true then some m else none := by
  have hcut : Text.cut '=' (memberText m) = some (m.1.toList, m.2.toList) :=
    Text.cut_append_cons (not_mem_of_isWord h (by decide)) _
  rw [member?, hcut, Option.bind_some]
  dsimp only
  rw [h, Bool.true_and, String.ofList_toList, String.ofList_toList]

/-- A row of members is read as a whole. -/
theorem mapM_member?_eq_some {ms : List (String × String)} (hkeys : ∀ m ∈ ms, isKey m.1.toList = true)
    (hvalues : ∀ m ∈ ms, isValue m.2.toList = true) : (ms.map memberText).mapM member? = some ms := by
  induction ms with
  | nil => rfl
  | cons m ms ih =>
      obtain ⟨hkey, hkeys⟩ := List.forall_mem_cons.mp hkeys
      obtain ⟨hvalue, hvalues⟩ := List.forall_mem_cons.mp hvalues
      rw [List.map_cons, List.mapM_cons, member?_memberText hkey, if_pos hvalue, ih hkeys hvalues]
      rfl

/-- Or not at all. -/
theorem mapM_member?_eq_none {ms : List (String × String)} (hkeys : ∀ m ∈ ms, isKey m.1.toList = true)
    {m : String × String} (hm : m ∈ ms) (hvalue : ¬ isValue m.2.toList = true) :
    (ms.map memberText).mapM member? = none := by
  induction ms with
  | nil => cases hm
  | cons first ms ih =>
      obtain ⟨hkey, hkeys⟩ := List.forall_mem_cons.mp hkeys
      rw [List.map_cons, List.mapM_cons]
      rcases List.mem_cons.mp hm with rfl | hm
      · rw [member?_memberText hkey, if_neg hvalue]
        rfl
      · rw [ih hkeys hm]
        cases member? (memberText first) <;> rfl

/-! ## Headers of well-formed states -/

namespace WellFormed

variable {s : TraceState}

/-- The members that a reader finds in the header of a state, without the blanks at their ends. -/
theorem written_header (h : s.WellFormed) :
    written s.header.toList = (s.members.map trimmed).map memberText := by
  rw [TraceState.header, String.toList_ofList]
  by_cases hnil : s.members = []
  · rw [hnil]
    decide
  have hcomma : ∀ f ∈ s.members.map memberText, ',' ∉ f := by
    intro f hf hc
    obtain ⟨m, hm, rfl⟩ := List.mem_map.mp hf
    obtain ⟨hkey, hvalue⟩ := h.proper m hm
    rcases List.mem_append.mp hc with hc | hc
    · exact not_mem_of_isWord hkey (by decide) hc
    · rcases List.mem_cons.mp hc with hc | hc
      · revert hc
        decide
      · exact not_mem_of_isWord hvalue (by decide) hc
  have htrim : (s.members.map memberText).map Text.trim = (s.members.map trimmed).map memberText := by
    rw [List.map_map, List.map_map]
    exact List.map_congr_left fun m hm => trim_memberText (h.proper m hm).1
  have hkeep : ((s.members.map trimmed).map memberText).filter (!·.isEmpty) =
      (s.members.map trimmed).map memberText := by
    refine List.filter_eq_self.mpr fun f hf => ?_
    obtain ⟨m, -, rfl⟩ := List.mem_map.mp hf
    simp [memberText]
  rw [written, Text.fields_join (by simpa using hnil) hcomma, htrim, hkeep]

theorem isKey_of_mem_trimmed (h : s.WellFormed) : ∀ m ∈ s.members.map trimmed, isKey m.1.toList = true := by
  intro m hm
  obtain ⟨old, hold, rfl⟩ := List.mem_map.mp hm
  exact (h.proper old hold).1

/-- The header of a state is read as the state with its values trimmed, if something is left of each of
them, and as no state if not. -/
theorem ofHeader_header (h : s.WellFormed) :
    ((∀ m ∈ s.members, ∃ c ∈ m.2.toList, c ≠ ' ') → ofHeader s.header = ⟨s.members.map trimmed⟩) ∧
    ((∃ m ∈ s.members, ∀ c ∈ m.2.toList, c = ' ') → ofHeader s.header = empty) := by
  have hvalue (m : String × String) (hm : m ∈ s.members) :
      isValue (trimmed m).2.toList = true ↔ ∃ c ∈ m.2.toList, c ≠ ' ' := by
    rw [toList_trimmed, isValue_trimRight (h.proper m hm).2]
  constructor
  · intro hleft
    have hread : (written s.header.toList).mapM member? = some (s.members.map trimmed) := by
      rw [h.written_header]
      refine mapM_member?_eq_some h.isKey_of_mem_trimmed fun m hm => ?_
      obtain ⟨old, hold, rfl⟩ := List.mem_map.mp hm
      exact (hvalue old hold).mpr (hleft old hold)
    have hkeys : (s.members.map trimmed).map (·.1) = s.members.map (·.1) := by
      rw [List.map_map]
      rfl
    have hlimits : (decide ((s.members.map trimmed).map (·.1)).Nodup &&
        decide ((s.members.map trimmed).length ≤ maxMembers)) = true := by
      rw [hkeys, List.length_map, Bool.and_eq_true, decide_eq_true_eq, decide_eq_true_eq]
      exact ⟨h.nodup, h.few⟩
    rw [ofHeader, members?, hread, Option.filter_some, if_pos hlimits]
    rfl
  · rintro ⟨m, hm, hspaces⟩
    have hread : (written s.header.toList).mapM member? = none := by
      rw [h.written_header]
      refine mapM_member?_eq_none h.isKey_of_mem_trimmed (List.mem_map_of_mem hm) fun hleft => ?_
      obtain ⟨c, hc, hne⟩ := (hvalue m hm).mp hleft
      exact hne (hspaces c hc)
    rw [ofHeader, members?, hread]
    rfl

/-- A state is read back from its header just when no value ends with a blank. -/
theorem ofHeader_header_eq_self_iff (h : s.WellFormed) :
    ofHeader s.header = s ↔ ∀ m ∈ s.members, m.2.toList.getLast? ≠ some ' ' := by
  have hself : s.members.map trimmed = s.members ↔ ∀ m ∈ s.members, m.2.toList.getLast? ≠ some ' ' := by
    have hpointwise : s.members.map trimmed = s.members.map id ↔ ∀ m ∈ s.members, trimmed m = m :=
      List.map_inj_left
    rw [List.map_id] at hpointwise
    exact hpointwise.trans (forall₂_congr fun m hm => trimmed_eq_self_iff (h.proper m hm).2)
  obtain ⟨htrimmed, hempty⟩ := h.ofHeader_header
  by_cases hleft : ∀ m ∈ s.members, ∃ c ∈ m.2.toList, c ≠ ' '
  · rw [htrimmed hleft, ← hself, TraceState.mk.injEq]
  · simp only [not_forall, not_exists, not_and, not_not] at hleft
    obtain ⟨m, hm, hspaces⟩ := hleft
    rw [hempty ⟨m, hm, hspaces⟩]
    constructor
    · rintro rfl
      cases hm
    · intro hends
      have hne : m.2.toList ≠ [] := (isWord_eq_true_iff.mp (h.proper m hm).2).1
      have hlast := List.getLast?_eq_some_getLast hne
      rw [hspaces _ (List.getLast_mem hne)] at hlast
      exact absurd hlast (hends m hm)

end WellFormed

/-- A state that has come about from a header and from members that were set is read back from the header
that it writes if no value ends with a blank, and only then.  The blanks at the ends of values are lost
otherwise, and with a value of nothing but blanks the whole state. -/
theorem header_read_back {s : TraceState} (h : Reachable s) :
    (ofHeader s.header = s ↔ ∀ m ∈ s.members, m.2.toList.getLast? ≠ some ' ') ∧
    ((∀ m ∈ s.members, ∃ c ∈ m.2.toList, c ≠ ' ') → ofHeader s.header = ⟨s.members.map trimmed⟩) ∧
    ((∃ m ∈ s.members, ∀ c ∈ m.2.toList, c = ' ') → ofHeader s.header = empty) :=
  ⟨h.wellFormed.ofHeader_header_eq_self_iff, h.wellFormed.ofHeader_header⟩

/-- A value with a blank inside, and then one with a blank at its end. -/
theorem header_read_back_of_blanks : ∃ s t : TraceState, Reachable s ∧ Reachable t ∧
    s.members = [("b", " x y"), ("a", "1")] ∧ t.members = [("c", "z "), ("b", " x y"), ("a", "1")] ∧
    ofHeader s.header = s ∧ ofHeader t.header = ⟨[("c", "z"), ("b", " x y"), ("a", "1")]⟩ := by
  have hread : (ofHeader "a=1").insert? "b" " x y" = some ⟨[("b", " x y"), ("a", "1")]⟩ := by decide
  have hset : (TraceState.mk [("b", " x y"), ("a", "1")]).insert? "c" "z " =
      some ⟨[("c", "z "), ("b", " x y"), ("a", "1")]⟩ := by decide
  have hs := Reachable.set (.read "a=1") hread
  have ht := hs.set hset
  have hvisible : ∀ m ∈ [("c", "z "), ("b", " x y"), ("a", "1")], ∃ c ∈ m.2.toList, c ≠ ' ' := by
    simp only [List.forall_mem_cons, List.not_mem_nil, false_imp_iff, implies_true, and_true]
    exact ⟨⟨'z', by decide, by decide⟩, ⟨'x', by decide, by decide⟩, ⟨'1', by decide, by decide⟩⟩
  exact ⟨_, _, hs, ht, rfl, rfl, (header_read_back hs).1.mpr (by decide),
    (header_read_back ht).2.1 hvisible⟩

/-- A value that is one blank takes the other members with it. -/
theorem state_lost_with_blank_value :
    ¬ ∀ s : TraceState, Reachable s → ofHeader s.header = s := by
  intro h
  have hset : (ofHeader "foo=1").insert? "bar" " " = some ⟨[("bar", " "), ("foo", "1")]⟩ := by decide
  have hread := h _ (.set (.read "foo=1") hset)
  revert hread
  decide

end TraceState

end Telemetry
