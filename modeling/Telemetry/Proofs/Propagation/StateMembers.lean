import Mathlib.Data.List.Forall2
import Telemetry.Proofs.Propagation.TraceStates

/-!
# The members of trace states

Which members a state has is decided in two places.  A header is read as a whole or not at all, and
the limit on the number of its members, like the rule that no key repeats, makes a reader refuse it
(`readAs_ofHeader`).  A member that is set comes to the front, and the limit lets the last one go
there: but only if the state was full without that key, since a member with the key makes room
(`WellFormed.inserted_of_insert?`).
-/

namespace Telemetry.TraceState

/-! ## Reading headers -/

/-- A text is a member: a key in front of its first equals sign, and a value behind it. -/
structure Spells (f : List Char) (m : String × String) : Prop where
  text : f = m.1.toList ++ '=' :: m.2.toList
  first : '=' ∉ m.1.toList
  key : isKey m.1.toList = true
  value : isValue m.2.toList = true

/-- Some texts are the members of a state, in the same order. -/
structure Spelled (fs : List (List Char)) (ms : List (String × String)) : Prop where
  few : fs.length ≤ maxMembers
  members : List.Forall₂ Spells fs ms
  nodup : (ms.map (·.1)).Nodup

/-- What is made of the texts of a header. -/
inductive ReadAs (fs : List (List Char)) : TraceState → Prop where
  | kept {ms : List (String × String)} : Spelled fs ms → ReadAs fs ⟨ms⟩
  | refused : (∀ ms, ¬ Spelled fs ms) → ReadAs fs empty

theorem member?_eq_some_iff {f : List Char} {m : String × String} : member? f = some m ↔ Spells f m := by
  constructor
  · intro h
    obtain ⟨⟨key, value⟩, hcut, hm⟩ := Option.bind_eq_some_iff.mp h
    obtain ⟨hproper, hm⟩ := Option.ite_none_right_eq_some.mp hm
    obtain ⟨htext, hfirst⟩ := Text.cut_eq_some hcut
    rw [Bool.and_eq_true] at hproper
    obtain rfl := Option.some.inj hm
    constructor <;> simp only [String.toList_ofList]
    · exact htext
    · exact hfirst
    · exact hproper.1
    · exact hproper.2
  · rintro ⟨rfl, -, hkey, hvalue⟩
    exact (member?_memberText hkey).trans (if_pos hvalue)

/-- A row of texts is read member by member. -/
theorem mapM_member?_eq_some_iff {fs : List (List Char)} {ms : List (String × String)} :
    fs.mapM member? = some ms ↔ List.Forall₂ Spells fs ms := by
  induction fs generalizing ms with
  | nil =>
      rw [List.mapM_nil, List.forall₂_nil_left_iff]
      exact Option.some_inj.trans eq_comm
  | cons f fs ih =>
      rw [List.mapM_cons, List.forall₂_cons_left_iff]
      constructor
      · intro h
        obtain ⟨m, hm, h⟩ := Option.bind_eq_some_iff.mp h
        obtain ⟨rest, hrest, h⟩ := Option.bind_eq_some_iff.mp h
        cases h
        exact ⟨m, rest, member?_eq_some_iff.mp hm, ih.mp hrest, rfl⟩
      · rintro ⟨m, rest, hm, hrest, rfl⟩
        rw [member?_eq_some_iff.mpr hm, ih.mpr hrest]
        rfl

theorem members?_eq_some_iff {header : List Char} {ms : List (String × String)} :
    members? header = some ms ↔ Spelled (written header) ms := by
  rw [members?, Option.filter_eq_some_iff, mapM_member?_eq_some_iff, Bool.and_eq_true, decide_eq_true_eq,
    decide_eq_true_eq]
  constructor
  · rintro ⟨hmembers, hnodup, hfew⟩
    exact ⟨hmembers.length_eq ▸ hfew, hmembers, hnodup⟩
  · rintro ⟨hfew, hmembers, hnodup⟩
    exact ⟨hmembers, hnodup, hmembers.length_eq ▸ hfew⟩

theorem readAs_ofHeader (header : String) : ReadAs (written header.toList) (ofHeader header) := by
  cases hm : members? header.toList with
  | some ms =>
      have hread : ofHeader header = ⟨ms⟩ := by rw [ofHeader, hm]; rfl
      exact hread ▸ .kept (members?_eq_some_iff.mp hm)
  | none =>
      have hread : ofHeader header = empty := by rw [ofHeader, hm]; rfl
      refine hread ▸ .refused fun ms h => ?_
      rw [members?_eq_some_iff.mpr h] at hm
      cases hm

/-! ## Setting members -/

/-- What becomes of a state in which a member is set. -/
structure Inserted (s : TraceState) (key value : String) (t : TraceState) : Prop where
  found : t.get? key = some value
  /-- With room for the member, or the key in the state, nothing else is lost. -/
  kept : s.members.length < maxMembers ∨ key ∈ s.members.map (·.1) →
    t.members = (key, value) :: s.members.filter (·.1 ≠ key)
  /-- Otherwise the last member goes. -/
  dropped : s.members.length = maxMembers → key ∉ s.members.map (·.1) →
    t.members = (key, value) :: s.members.dropLast

theorem WellFormed.inserted_of_insert? {s t : TraceState} {key value : String} (h : s.WellFormed)
    (ht : s.insert? key value = some t) : Inserted s key value t := by
  obtain ⟨-, ht⟩ := Option.ite_none_right_eq_some.mp ht
  obtain rfl := Option.some.inj ht
  refine ⟨by simp [get?, maxMembers], fun hroom => ?_, fun hfull hnew => ?_⟩
  · have hfewer : (s.members.filter (·.1 != key)).length < maxMembers := by
      rcases hroom with hlt | hold
      · exact (List.length_filter_le ..).trans_lt hlt
      · obtain ⟨m, hm, rfl⟩ := List.mem_map.mp hold
        have hless : (s.members.filter (·.1 != m.1)).length < s.members.length :=
          List.length_filter_lt_length_iff_exists.mpr ⟨m, hm, by simp⟩
        exact hless.trans_le h.few
    have hfilter : s.members.filter (·.1 ≠ key) = s.members.filter (·.1 != key) :=
      List.filter_congr fun m _ => by simp [bne, beq_eq_decide]
    rw [hfilter]
    exact List.take_of_length_le hfewer
  · have hothers : s.members.filter (·.1 != key) = s.members :=
      List.filter_eq_self.mpr fun m hm => bne_iff_ne.mpr fun e => hnew (e ▸ List.mem_map_of_mem hm)
    rw [hothers, List.dropLast_eq_take, hfull]
    rfl

/-- What holds of the members of every header and every state. -/
theorem members_governed :
    (∀ header : String, ∃ fs, fs ≠ [] ∧ (∀ f ∈ fs, ',' ∉ f) ∧ Text.join ',' fs = header.toList ∧
      ReadAs ((fs.map Text.trim).filter (!·.isEmpty)) (ofHeader header)) ∧
    ∀ s, Reachable s → s.WellFormed ∧
      ∀ key value t, s.insert? key value = some t → Inserted s key value t := by
  refine ⟨fun header => ?_, fun s hs => ⟨hs.wellFormed, fun key value t ht => ?_⟩⟩
  · exact ⟨Text.fields ',' header.toList, Text.fields_ne_nil ',' _, fun f => Text.not_mem_of_mem_fields,
      Text.join_fields .., readAs_ofHeader header⟩
  · exact hs.wellFormed.inserted_of_insert? ht

/-- A state with 32 members loses the last one to a new member, and none to a member that it has. -/
theorem members_governed_of_full :
    ∃ s t u : TraceState, Reachable s ∧ s.members.length = 32 ∧ s.members.getLast? = some ("5", "x") ∧
      t.members = ("6", "y") :: s.members.dropLast ∧ u.members = ("a", "z") :: t.members.filter (·.1 ≠ "a") ∧
      u.get? "a" = some "z" ∧ u.members.length = 32 := by
  let s : TraceState := ⟨"abcdefghijklmnopqrstuvwxyz012345".toList.map (·.toString, "x")⟩
  have hwell : s.WellFormed := ⟨by decide +kernel, by decide +kernel, by decide +kernel⟩
  have hs : Reachable s := by
    have hread := Reachable.read s.header
    rwa [hwell.ofHeader_header_eq_self_iff.mpr (by decide +kernel)] at hread
  have hfull : s.members.length = 32 := by decide +kernel
  have ht := (members_governed.2 s hs).2 "6" "y" _ rfl
  have hu := (members_governed.2 _ (hs.set (show s.insert? "6" "y" = some _ from rfl))).2 "a" "z" _ rfl
  exact ⟨s, _, _, hs, hfull, by decide +kernel, ht.dropped hfull (by decide +kernel),
    hu.kept (.inr (by decide +kernel)), hu.found, by decide +kernel⟩

end Telemetry.TraceState
