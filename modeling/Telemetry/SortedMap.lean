/-!
# Sorted maps

Baggage, attributes, carriers and the entries of a context are maps whose order shows: in the
header that is written, in the frame that is sent, in a description.  A `SortedMap` holds its
entries in ascending order of the keys, each key once, and carries the proof that it does.  Two
maps with the same look-ups are therefore the same map (`ext_get?`).

`insert` goes once through the entries and replaces the value of a key that is there.  `get?` is
the view of the map that the laws speak of: `get?_insert` and `get?_insertAll` say what the
operations do to it.
-/

namespace Telemetry

/-! ## Entries in order -/

section Entries

variable {κ β : Type} [Ord κ]

/-- Entries in ascending order of their keys, each key once. -/
def Ascending (entries : List (κ × β)) : Prop :=
  entries.Pairwise fun a b => compare a.1 b.1 = .lt

/-- An entry put at its place, replacing one with the same key. -/
def insertEntry (k : κ) (v : β) : List (κ × β) → List (κ × β)
  | [] => [(k, v)]
  | (l, w) :: rest =>
    match compare k l with
    | .lt => (k, v) :: (l, w) :: rest
    | .eq => (k, v) :: rest
    | .gt => (l, w) :: insertEntry k v rest
termination_by structural entries => entries

/-- The value of the first entry with a key. -/
def findEntry (k : κ) : List (κ × β) → Option β
  | [] => none
  | (l, w) :: rest => if compare k l = .eq then some w else findEntry k rest
termination_by structural entries => entries

theorem mem_insertEntry {k : κ} {v : β} {entries : List (κ × β)} {e : κ × β}
    (h : e ∈ insertEntry k v entries) : e = (k, v) ∨ e ∈ entries := by
  induction entries with
  | nil => simpa [insertEntry] using h
  | cons f rest ih =>
    obtain ⟨l, w⟩ := f
    simp only [insertEntry] at h
    split at h
    · simpa using h
    · simp only [List.mem_cons] at h ⊢
      rcases h with h | h
      · exact Or.inl h
      · exact Or.inr (Or.inr h)
    · simp only [List.mem_cons] at h ⊢
      rcases h with h | h
      · exact Or.inr (Or.inl h)
      · rcases ih h with h | h
        · exact Or.inl h
        · exact Or.inr (Or.inr h)

variable [Std.LawfulEqOrd κ]

theorem findEntry_eq_some_iff {entries : List (κ × β)} (h : Ascending entries) {k : κ} {v : β} :
    findEntry k entries = some v ↔ (k, v) ∈ entries := by
  induction entries with
  | nil => simp [findEntry]
  | cons f rest ih =>
    obtain ⟨l, w⟩ := f
    have hl : ∀ e ∈ rest, compare l e.1 = .lt := fun e he => List.rel_of_pairwise_cons h he
    by_cases hk : compare k l = .eq
    · have hkl : k = l := Std.LawfulEqOrd.compare_eq_iff_eq.mp hk
      subst hkl
      have hnot : (k, v) ∉ rest := fun m => by simpa using hl _ m
      simp [findEntry, hnot, eq_comm]
    · have hkl : k ≠ l := fun e => hk (by simp [e])
      simp [findEntry, hk, ih (List.Pairwise.of_cons h), hkl]

theorem findEntry_insertEntry [DecidableEq κ] (k l : κ) (v : β) (entries : List (κ × β)) :
    findEntry l (insertEntry k v entries) = if l = k then some v else findEntry l entries := by
  induction entries with
  | nil =>
    by_cases h : l = k
    · simp [insertEntry, findEntry, h]
    · have hc : compare l k ≠ .eq := fun e => h (Std.LawfulEqOrd.compare_eq_iff_eq.mp e)
      simp [insertEntry, findEntry, h, hc]
  | cons f rest ih =>
    obtain ⟨m, w⟩ := f
    have hne : l ≠ k → compare l k ≠ .eq := fun h e => h (Std.LawfulEqOrd.compare_eq_iff_eq.mp e)
    simp only [insertEntry]
    split
    · by_cases h : l = k
      · simp [findEntry, h]
      · simp [findEntry, h, hne h]
    · next hc =>
      have hm : k = m := Std.LawfulEqOrd.compare_eq_iff_eq.mp hc
      by_cases h : l = k
      · simp [findEntry, h]
      · subst hm
        simp [findEntry, h, hne h]
    · next hc =>
      by_cases h : l = k
      · subst h
        have hm : compare l m ≠ .eq := by simp [hc]
        simp [findEntry, hm, ih]
      · by_cases hm : compare l m = .eq
        · simp [findEntry, hm, h]
        · simp [findEntry, hm, h, ih]

theorem findEntry_eq_none_iff {entries : List (κ × β)} {k : κ} :
    findEntry k entries = none ↔ ∀ v, (k, v) ∉ entries := by
  induction entries with
  | nil => simp [findEntry]
  | cons f rest ih =>
    obtain ⟨l, w⟩ := f
    by_cases hk : compare k l = .eq
    · have hkl : k = l := Std.LawfulEqOrd.compare_eq_iff_eq.mp hk
      have hmem : (k, w) ∈ (l, w) :: rest := by simp [hkl]
      rw [findEntry, if_pos hk]
      exact ⟨nofun, fun h => (h w hmem).elim⟩
    · have hkl : k ≠ l := fun e => hk (by simp [e])
      simp [findEntry, hk, ih, hkl]

/-- Where no key has two values the order does not matter. -/
theorem findEntry_eq_some_iff_of_unique {entries : List (κ × β)} {k : κ} {v : β}
    (h : ∀ w, (k, w) ∈ entries → (k, v) ∈ entries → w = v) :
    findEntry k entries = some v ↔ (k, v) ∈ entries := by
  induction entries with
  | nil => simp [findEntry]
  | cons f rest ih =>
    obtain ⟨l, w⟩ := f
    have hrest := ih fun u hu hv => h u (List.mem_cons_of_mem _ hu) (List.mem_cons_of_mem _ hv)
    by_cases hk : compare k l = .eq
    · have hkl : k = l := Std.LawfulEqOrd.compare_eq_iff_eq.mp hk
      subst hkl
      have hw : (k, v) ∈ (k, w) :: rest → w = v := h w List.mem_cons_self
      simp only [findEntry, hk, if_true, Option.some.injEq]
      exact ⟨fun e => e ▸ List.mem_cons_self, hw⟩
    · have hkl : k ≠ l := fun e => hk (by simp [e])
      simp [findEntry, hk, hrest, hkl]

variable [Std.TransOrd κ]

theorem ascending_insertEntry {entries : List (κ × β)} (h : Ascending entries) (k : κ) (v : β) :
    Ascending (insertEntry k v entries) := by
  induction entries with
  | nil => simp [insertEntry, Ascending]
  | cons f rest ih =>
    obtain ⟨l, w⟩ := f
    have hrest : Ascending rest := List.Pairwise.of_cons h
    have hl : ∀ e ∈ rest, compare l e.1 = .lt := fun e he => List.rel_of_pairwise_cons h he
    simp only [insertEntry]
    split
    · next hc =>
      refine List.Pairwise.cons ?_ h
      intro e he
      rcases List.mem_cons.mp he with rfl | he
      · exact hc
      · exact Std.TransCmp.lt_trans hc (hl e he)
    · next hc =>
      rw [Std.LawfulEqOrd.compare_eq_iff_eq.mp hc]
      exact List.Pairwise.cons hl hrest
    · next hc =>
      refine List.Pairwise.cons ?_ (ih hrest)
      intro e he
      rcases mem_insertEntry he with rfl | he
      · exact Std.OrientedCmp.lt_of_gt hc
      · exact hl e he

/-- Two ascending rows with the same look-ups are the same. -/
theorem eq_of_findEntry_eq {xs ys : List (κ × β)} (hx : Ascending xs) (hy : Ascending ys)
    (h : ∀ k, findEntry k xs = findEntry k ys) : xs = ys := by
  induction xs generalizing ys with
  | nil =>
    cases ys with
    | nil => rfl
    | cons f ys => simpa [findEntry] using h f.1
  | cons e xs ih =>
    cases ys with
    | nil => simpa [findEntry] using h e.1
    | cons f ys =>
      have hex : ∀ d ∈ xs, compare e.1 d.1 = .lt := fun d hd => List.rel_of_pairwise_cons hx hd
      have hfy : ∀ d ∈ ys, compare f.1 d.1 = .lt := fun d hd => List.rel_of_pairwise_cons hy hd
      have he : e ∈ f :: ys := by
        have := (findEntry_eq_some_iff hx (k := e.1) (v := e.2)).mpr List.mem_cons_self
        rw [h] at this
        exact (findEntry_eq_some_iff hy).mp this
      have hf : f ∈ e :: xs := by
        have := (findEntry_eq_some_iff hy (k := f.1) (v := f.2)).mpr List.mem_cons_self
        rw [← h] at this
        exact (findEntry_eq_some_iff hx).mp this
      have hef : e = f := by
        rcases List.mem_cons.mp he with he | he
        · exact he
        · rcases List.mem_cons.mp hf with hf | hf
          · exact hf.symm
          · have := Std.TransCmp.lt_trans (hfy e he) (hex f hf)
            simp at this
      subst hef
      congr 1
      refine ih (List.Pairwise.of_cons hx) (List.Pairwise.of_cons hy) fun k => ?_
      by_cases hk : k = e.1
      · subst hk
        have hnx : findEntry e.1 xs = none := by
          cases hc : findEntry e.1 xs with
          | none => rfl
          | some v =>
            have := hex _ ((findEntry_eq_some_iff (List.Pairwise.of_cons hx)).mp hc)
            simp at this
        have hny : findEntry e.1 ys = none := by
          cases hc : findEntry e.1 ys with
          | none => rfl
          | some v =>
            have := hfy _ ((findEntry_eq_some_iff (List.Pairwise.of_cons hy)).mp hc)
            simp at this
        rw [hnx, hny]
      · have hc : compare k e.1 ≠ .eq := fun c => hk (Std.LawfulEqOrd.compare_eq_iff_eq.mp c)
        have := h k
        obtain ⟨a, b⟩ := e
        simpa [findEntry, hc] using this

end Entries

/-! ## Maps -/

/-- A map with its entries in ascending order of the keys. -/
structure SortedMap (κ β : Type) [Ord κ] where
  /-- The entries. -/
  entries : List (κ × β)
  /-- They are in order, and no key is repeated. -/
  sorted : Ascending entries

namespace SortedMap

variable {κ β : Type} [Ord κ]

/-- The map without entries. -/
def empty : SortedMap κ β := ⟨[], List.Pairwise.nil⟩

instance : EmptyCollection (SortedMap κ β) := ⟨empty⟩

instance : Inhabited (SortedMap κ β) := ⟨empty⟩

instance [DecidableEq κ] [DecidableEq β] : DecidableEq (SortedMap κ β) := fun a b =>
  if h : a.entries = b.entries then isTrue (by cases a; cases b; simp_all)
  else isFalse fun e => h (e ▸ rfl)

/-- The entries in ascending order of the keys. -/
def toList (m : SortedMap κ β) : List (κ × β) := m.entries

/-- The keys in ascending order. -/
def keys (m : SortedMap κ β) : List κ := m.entries.map (·.1)

/-- The number of entries. -/
def size (m : SortedMap κ β) : Nat := m.entries.length

/-- Whether there is no entry. -/
def isEmpty (m : SortedMap κ β) : Bool := m.entries.isEmpty

/-- The value of a key. -/
def get? (m : SortedMap κ β) (k : κ) : Option β := findEntry k m.entries

@[simp] theorem get?_empty (k : κ) : (empty : SortedMap κ β).get? k = none := rfl

variable [Std.LawfulEqOrd κ]

theorem get?_eq_some_iff {m : SortedMap κ β} {k : κ} {v : β} :
    m.get? k = some v ↔ (k, v) ∈ m.toList :=
  findEntry_eq_some_iff m.sorted

/-- No key is repeated, so the last entry with a key is the first one. -/
theorem findEntry_reverse_toList (m : SortedMap κ β) (k : κ) : findEntry k m.toList.reverse = m.get? k := by
  refine Option.ext fun v => ?_
  rw [findEntry_eq_some_iff_of_unique, List.mem_reverse, get?_eq_some_iff]
  intro w hw hv
  rw [List.mem_reverse, ← get?_eq_some_iff] at hw hv
  exact Option.some.inj (hw.symm.trans hv)

variable [Std.TransOrd κ]

/-- The map with a key set to a value. -/
def insert (m : SortedMap κ β) (k : κ) (v : β) : SortedMap κ β :=
  ⟨insertEntry k v m.entries, ascending_insertEntry m.sorted k v⟩

/-- The map with pairs put in one after the other, so that a later pair replaces an earlier one. -/
def insertAll (m : SortedMap κ β) (pairs : List (κ × β)) : SortedMap κ β :=
  pairs.foldl (fun m e => m.insert e.1 e.2) m

/-- The map of a row of pairs, of which a later one replaces an earlier one. -/
def ofList (pairs : List (κ × β)) : SortedMap κ β := empty.insertAll pairs

/-! ## Laws -/

theorem get?_insert [DecidableEq κ] (m : SortedMap κ β) (k l : κ) (v : β) :
    (m.insert k v).get? l = if l = k then some v else m.get? l :=
  findEntry_insertEntry k l v m.entries

/-- A map is determined by its look-ups. -/
theorem ext_get? {a b : SortedMap κ β} (h : ∀ k, a.get? k = b.get? k) : a = b := by
  obtain ⟨xs, hx⟩ := a
  obtain ⟨ys, hy⟩ := b
  have : xs = ys := eq_of_findEntry_eq hx hy h
  subst this
  rfl

/-- Putting pairs in gives the last pair of a key, and else what was there. -/
theorem get?_insertAll [DecidableEq κ] (m : SortedMap κ β) (pairs : List (κ × β)) (k : κ) :
    (m.insertAll pairs).get? k = (findEntry k pairs.reverse).or (m.get? k) := by
  induction pairs generalizing m with
  | nil => simp [insertAll, findEntry]
  | cons e rest ih =>
    have happ : ∀ xs : List (κ × β), findEntry k (xs ++ [e])
        = (findEntry k xs).or (if k = e.1 then some e.2 else none) := by
      intro xs
      induction xs with
      | nil =>
        by_cases h : k = e.1
        · simp [findEntry, h]
        · have hc : compare k e.1 ≠ .eq := fun c => h (Std.LawfulEqOrd.compare_eq_iff_eq.mp c)
          simp [findEntry, h, hc]
      | cons f xs ihx =>
        by_cases hc : compare k f.1 = .eq
        · simp [findEntry, hc]
        · simp [findEntry, hc, ihx]
    have := ih (m.insert e.1 e.2)
    simp only [insertAll, List.foldl_cons] at this ⊢
    rw [this, get?_insert, List.reverse_cons, happ]
    by_cases h : k = e.1
    · simp [h]
    · simp [h]

theorem insert_insert_self [DecidableEq κ] (m : SortedMap κ β) (k : κ) (v w : β) :
    (m.insert k v).insert k w = m.insert k w := by
  refine ext_get? fun l => ?_
  simp only [get?_insert]
  split <;> rfl

theorem insert_comm [DecidableEq κ] (m : SortedMap κ β) {k l : κ} (h : k ≠ l) (v w : β) :
    (m.insert k v).insert l w = (m.insert l w).insert k v := by
  refine ext_get? fun j => ?_
  simp only [get?_insert]
  split
  next hl => rw [if_neg fun hk => h (hk.symm.trans hl)]
  next => rfl

theorem insertAll_append (m : SortedMap κ β) (xs ys : List (κ × β)) :
    m.insertAll (xs ++ ys) = (m.insertAll xs).insertAll ys := List.foldl_append ..

theorem get?_ofList [DecidableEq κ] (pairs : List (κ × β)) (k : κ) :
    (ofList pairs).get? k = findEntry k pairs.reverse := by
  rw [ofList, get?_insertAll, get?_empty, Option.or_none]

/-- A map put into another one replaces what it has, and keeps the rest. -/
theorem get?_insertAll_toList [DecidableEq κ] (m n : SortedMap κ β) (k : κ) :
    (m.insertAll n.toList).get? k = (n.get? k).or (m.get? k) := by
  rw [get?_insertAll, findEntry_reverse_toList]

/-- Only the map of some pairs matters to a map that they are put into. -/
theorem insertAll_toList_ofList [DecidableEq κ] (m : SortedMap κ β) (pairs : List (κ × β)) :
    m.insertAll (ofList pairs).toList = m.insertAll pairs := by
  refine ext_get? fun k => ?_
  rw [get?_insertAll_toList, get?_ofList, get?_insertAll]

theorem ofList_toList [DecidableEq κ] (m : SortedMap κ β) : ofList m.toList = m := by
  refine ext_get? fun k => ?_
  rw [get?_ofList, findEntry_reverse_toList]

theorem ofList_append [DecidableEq κ] (xs ys : List (κ × β)) :
    ofList (xs ++ ys) = (ofList xs).insertAll (ofList ys).toList := by
  rw [insertAll_toList_ofList, ofList, insertAll_append, ofList]

theorem ofList_eq_empty_iff [DecidableEq κ] {pairs : List (κ × β)} : ofList pairs = empty ↔ pairs = [] := by
  constructor
  · intro h
    refine List.eq_nil_iff_forall_not_mem.mpr fun e he => ?_
    have hnone := get?_ofList pairs e.1
    rw [h, get?_empty] at hnone
    exact findEntry_eq_none_iff.mp hnone.symm e.2 (List.mem_reverse.mpr he)
  · rintro rfl
    rfl

/-- The map of pairs in which no key has two values does not depend on their order. -/
theorem ofList_congr [DecidableEq κ] {xs ys : List (κ × β)}
    (hunique : ∀ k v w, (k, v) ∈ xs → (k, w) ∈ xs → v = w) (hmem : ∀ e, e ∈ xs ↔ e ∈ ys) :
    ofList xs = ofList ys := by
  refine ext_get? fun k => Option.ext fun v => ?_
  rw [get?_ofList, get?_ofList, findEntry_eq_some_iff_of_unique, findEntry_eq_some_iff_of_unique,
    List.mem_reverse, List.mem_reverse, hmem]
  · intro w hw hv
    rw [List.mem_reverse, ← hmem] at hw hv
    exact hunique k w v hw hv
  · intro w hw hv
    rw [List.mem_reverse] at hw hv
    exact hunique k w v hw hv

end SortedMap

/-! ## Tests -/

example : (SortedMap.ofList [("b", 1), ("a", 2), ("b", 3)]).toList = [("a", 2), ("b", 3)] := by decide
example : ((SortedMap.ofList [("b", 1)]).get? "b", (SortedMap.ofList [("b", 1)]).get? "c")
    = (some 1, none) := by decide

end Telemetry
