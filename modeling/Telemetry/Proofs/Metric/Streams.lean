import Mathlib.Data.List.Nodup
import Telemetry.Metric.Meter

/-!
# The streams of a ledger

A ledger has one stream for each instrument and each set of attributes that it was told of, and never
two.  So what was told about one of them is found in its stream, and a collection reports at most one
point for it.  To say which counter a point is of, `Ledger.reported` gives the points of a collection
together with their instruments.

For a counter whose increments are integers, a stream is a sum in two parts: what was told since the
last collection, and the total until then, of which only a reader of totals takes note
(`MetricStream.Holds`).  A collection puts the two parts together.
-/

namespace Telemetry

namespace MetricStream

variable {s : MetricStream} {c c' : Nat} {a a' : Attributes}

/-- What tells the streams of a ledger apart. -/
def key (s : MetricStream) : Nat × Attributes := (s.instrument, s.attributes)

theorem isFor_iff : s.isFor c a = true ↔ s.key = (c, a) := by
  rw [isFor, Bool.and_eq_true, beq_iff_eq, Attributes.sameKey_iff, key, Prod.mk.injEq]

/-- A change that leaves a stream with its instrument and attributes. -/
def Keeps (f : MetricStream → MetricStream) : Prop := ∀ s, (f s).key = s.key

theorem Keeps.isFor {f : MetricStream → MetricStream} (hf : Keeps f) (s : MetricStream) :
    (f s).isFor c a = s.isFor c a := by
  rw [Bool.eq_iff_iff, isFor_iff, isFor_iff, hf s]

theorem keeps_add (value : Number) : Keeps (add value) := fun _ => rfl

theorem keeps_observe (value : Number) : Keeps (observe value) := fun _ => rfl

theorem keeps_collect (i : Instrument) (t : Temporality) (last now : Time) :
    Keeps fun s => (s.collect i t last now).2 := by
  intro s
  show (s.collect i t last now).2.key = s.key
  unfold collect
  split <;> rfl

theorem attributes_collect {i : Instrument} {t : Temporality} {last now : Time} {m : Metric}
    (h : (s.collect i t last now).1 = some m) : m.attributes = s.attributes := by
  unfold collect at h
  split at h
  · rw [← Option.some.inj h]
  · cases h

end MetricStream

/-! ## One stream for each -/

namespace Ledger

open MetricStream (key isFor_iff Keeps)

variable {c c' : Nat} {a a' : Attributes} {f : MetricStream → MetricStream} {now : Time}

theorem key_modify (hf : Keeps f) (streams : List MetricStream) :
    (modify c a now f streams).map key =
      if (c, a) ∈ streams.map key then streams.map key else streams.map key ++ [(c, a)] := by
  induction streams with
  | nil => exact congrArg ([·]) (hf _)
  | cons s streams ih =>
      rw [modify]
      split
      next hs =>
        have hk := isFor_iff.mp hs
        rw [List.map_cons, hf, List.map_cons, hk, if_pos List.mem_cons_self]
      next hs =>
        have hk : (c, a) ≠ s.key := fun he => hs (isFor_iff.mpr he.symm)
        rw [List.map_cons, ih, List.map_cons]
        by_cases hm : (c, a) ∈ streams.map key
        · rw [if_pos hm, if_pos (List.mem_cons_of_mem _ hm)]
        · rw [if_neg hm, if_neg (List.not_mem_cons_of_ne_of_not_mem hk hm), List.cons_append]

theorem nodup_modify (hf : Keeps f) {streams : List MetricStream} (h : (streams.map key).Nodup) :
    ((modify c a now f streams).map key).Nodup := by
  rw [key_modify hf]
  split
  next => exact h
  next hm =>
    refine List.nodup_append.mpr ⟨h, List.nodup_singleton _, fun x hx y hy => ?_⟩
    rw [List.mem_singleton.mp hy]
    rintro rfl
    exact hm hx

theorem find?_modify_self (hf : Keeps f) (streams : List MetricStream) :
    (modify c a now f streams).find? (·.isFor c a) =
      some (f ((streams.find? (·.isFor c a)).getD (.new c a now))) := by
  induction streams with
  | nil =>
      have hnew : (f (.new c a now)).isFor c a = true := isFor_iff.mpr (hf _)
      exact List.find?_cons_of_pos hnew
  | cons s streams ih =>
      rw [modify]
      split
      next hs =>
        rw [List.find?_cons, (hf.isFor s).trans hs, List.find?_cons, hs]
        rfl
      next hs =>
        have hs : s.isFor c a = false := Bool.eq_false_iff.mpr hs
        rw [List.find?_cons, hs, List.find?_cons, hs, ih]

theorem find?_modify_of_ne (hf : Keeps f) (hne : (c', a') ≠ (c, a)) (streams : List MetricStream) :
    (modify c a now f streams).find? (·.isFor c' a') = streams.find? (·.isFor c' a') := by
  have other : ∀ s, s.isFor c a = true → (f s).isFor c' a' = false ∧ s.isFor c' a' = false := by
    intro s hs
    have hno : s.isFor c' a' = false := Bool.eq_false_iff.mpr
      fun h => hne ((isFor_iff.mp h).symm.trans (isFor_iff.mp hs))
    exact ⟨(hf.isFor s).trans hno, hno⟩
  induction streams with
  | nil =>
      rw [modify, List.find?_cons, (other (.new c a now) (isFor_iff.mpr rfl)).1]
  | cons s streams ih =>
      rw [modify]
      split
      next hs =>
        rw [List.find?_cons, (other s hs).1, List.find?_cons, (other s hs).2]
      next => rw [List.find?_cons, List.find?_cons, ih]

variable {l : Ledger} {instruments : List Instrument}

theorem key_of_stream? {s : MetricStream} (h : l.stream? c a = some s) : s.key = (c, a) := by
  have hs := (List.find?_eq_some_iff_append.mp h).1
  exact isFor_iff.mp hs

/-- The points of a collection, with the instruments that they are of. -/
def reported (l : Ledger) (instruments : List Instrument) (now : Time) : List (Nat × Metric) :=
  l.streams.filterMap fun s => (l.collectStream instruments now s).1.map fun m => (s.instrument, m)

theorem collect_metrics (l : Ledger) (instruments : List Instrument) (now : Time) :
    (l.collect instruments now).2 = (l.reported instruments now).map (·.2) := by
  rw [collect, reported, List.filterMap_map, List.map_filterMap]
  refine List.filterMap_congr fun s _ => ?_
  rw [Option.map_map]
  exact Option.map_id'.symm

theorem keeps_collectStream (l : Ledger) (instruments : List Instrument) (now : Time) :
    Keeps fun s => (l.collectStream instruments now s).2 := by
  intro s
  show (l.collectStream instruments now s).2.key = s.key
  unfold collectStream
  split
  next i _ => exact MetricStream.keeps_collect i _ _ _ s
  next => rfl

theorem attributes_collectStream {s : MetricStream} {m : Metric}
    (h : (l.collectStream instruments now s).1 = some m) : m.attributes = s.attributes := by
  unfold collectStream at h
  split at h
  · exact MetricStream.attributes_collect h
  · cases h

theorem key_collect (l : Ledger) (instruments : List Instrument) (now : Time) :
    (l.collect instruments now).1.streams.map key = l.streams.map key := by
  rw [collect, List.map_map, List.map_map]
  exact List.map_congr_left fun s _ => l.keeps_collectStream instruments now s

theorem stream?_collect (l : Ledger) (instruments : List Instrument) (now : Time) :
    (l.collect instruments now).1.stream? c a =
      (l.stream? c a).map fun s => (l.collectStream instruments now s).2 := by
  rw [stream?, collect, List.map_map, List.find?_map]
  congr 1
  exact congrArg (List.find? · l.streams)
    (funext fun s => (l.keeps_collectStream instruments now).isFor s)

theorem filter_isFor {streams : List MetricStream} (h : (streams.map key).Nodup) :
    streams.filter (·.isFor c a) = (streams.find? (·.isFor c a)).toList := by
  induction streams with
  | nil => rfl
  | cons s streams ih =>
      obtain ⟨hs, hrest⟩ := List.nodup_cons.mp h
      by_cases hf : s.isFor c a = true
      · have hnone : streams.filter (·.isFor c a) = [] := by
          refine List.filter_eq_nil_iff.mpr fun t ht hc => hs ?_
          rw [isFor_iff.mp hf, ← isFor_iff.mp hc]
          exact List.mem_map_of_mem ht
        rw [List.filter_cons, if_pos hf, hnone, List.find?_cons, hf]
        rfl
      · rw [List.filter_cons, if_neg hf, List.find?_cons, Bool.eq_false_iff.mpr hf, ih hrest]

/-- For one instrument and one set of attributes there is one point at most, that of its stream. -/
theorem filter_reported (h : (l.streams.map key).Nodup) (c : Nat) (a : Attributes) :
    (l.reported instruments now).filter (fun e => e.1 == c && e.2.attributes.sameKey a) =
      (((l.stream? c a).bind fun s => (l.collectStream instruments now s).1).map fun m => (c, m)).toList := by
  have hstep : ∀ s : MetricStream,
      (((l.collectStream instruments now s).1.map fun m => (s.instrument, m)).filter
        fun e => e.1 == c && e.2.attributes.sameKey a) =
      if s.isFor c a = true then (l.collectStream instruments now s).1.map fun m => (c, m) else none := by
    intro s
    cases hm : (l.collectStream instruments now s).1 with
    | none => split <;> rfl
    | some m =>
        have hattr := attributes_collectStream hm
        show (if (s.instrument == c && m.attributes.sameKey a) = true then some (s.instrument, m) else none) =
          if (s.instrument == c && s.attributes.sameKey a) = true then some (c, m) else none
        rw [hattr]
        split
        next hk => rw [eq_of_beq (Bool.and_eq_true_iff.mp hk).1]
        next => rfl
  rw [reported, List.filter_filterMap, List.filterMap_congr fun s _ => hstep s,
    ← List.filterMap_filter, filter_isFor h, stream?]
  cases l.streams.find? (·.isFor c a) with
  | none => rfl
  | some s =>
      rw [Option.toList_some, Option.bind_some]
      cases h : (l.collectStream instruments now s).1 with
      | none => simp only [List.filterMap_cons, h, Option.map_none, List.filterMap_nil, Option.toList_none]
      | some m => simp only [List.filterMap_cons, h, Option.map_some, List.filterMap_nil, Option.toList_some]

end Ledger

/-! ## Sums of integers -/

/-- The sum of some integers, which need not fit their range. -/
def sumOf : List Int64 → Int
  | [] => 0
  | n :: ns => n.toInt + sumOf ns
termination_by structural ns => ns

theorem sumOf_append (ns ms : List Int64) : sumOf (ns ++ ms) = sumOf ns + sumOf ms := by
  induction ns with
  | nil => exact (Int.zero_add _).symm
  | cons n ns ih => rw [List.cons_append, sumOf, sumOf, ih, Int.add_assoc]

theorem sumOf_nonneg {ns : List Int64} (h : ∀ n ∈ ns, 0 ≤ n) : 0 ≤ sumOf ns := by
  induction ns with
  | nil => exact Int.le_refl 0
  | cons n ns ih =>
      have hn : 0 ≤ n.toInt := Int64.le_iff_toInt_le.mp (h n List.mem_cons_self)
      exact Int.add_nonneg hn (ih fun k hk => h k (List.mem_cons_of_mem _ hk))

/-- The sum as it is counted. -/
def Number.total (ns : List Int64) : Number := .i64 (.ofInt (sumOf ns))

theorem Number.total_add_i64 (n : Int64) (ns : List Int64) : total ns + .i64 n = total (n :: ns) := by
  rw [total, total, i64_add_i64, sumOf, Int.add_comm, Int64.ofInt_add, Int64.ofInt_toInt]

theorem Number.total_add_total (ns ms : List Int64) : total ms + total ns = total (ns ++ ms) := by
  rw [total, total, total, i64_add_i64, sumOf_append, Int.add_comm, Int64.ofInt_add]

namespace MetricStream

/-- What the ledger of a reader holds of a counter that was told some integers since the last
collection, and others before. -/
inductive Holds (t : Temporality) : Option MetricStream → List Int64 → List Int64 → Prop where
  | nothing : Holds t none [] []
  | sums {s recent earlier} : recent ++ earlier ≠ [] → s.value = .total recent →
      s.updated = !recent.isEmpty →
      (t = .cumulative → s.previous = if earlier.isEmpty then none else some (.total earlier)) →
      Holds t (some s) recent earlier

variable {t : Temporality} {so : Option MetricStream} {s : MetricStream} {i : Instrument}
  {recent earlier : List Int64} {last now : Time}

theorem Holds.eq_nil (h : Holds t none recent earlier) : recent = [] ∧ earlier = [] := by
  cases h
  exact ⟨rfl, rfl⟩

theorem Holds.append_ne_nil (h : Holds t (some s) recent earlier) : recent ++ earlier ≠ [] := by
  cases h
  assumption

theorem Holds.add (h : Holds t so recent earlier) (n : Int64) (c : Nat) (a : Attributes) (start : Time) :
    Holds t (some ((so.getD (.new c a start)).add (.i64 n))) (n :: recent) earlier := by
  cases h with
  | nothing => exact .sums (List.cons_ne_nil _ _) (Number.total_add_i64 n []) rfl fun _ => rfl
  | sums _ hv _ hp =>
      refine .sums (List.cons_ne_nil _ _) ?_ rfl hp
      show _ + Number.i64 n = _
      rw [Option.getD_some, hv, Number.total_add_i64]

/-- The integers that a reader of a temporality reports. -/
def due : Temporality → List Int64 → List Int64 → List Int64
  | .cumulative, recent, earlier => recent ++ earlier
  | .delta, recent, _ => recent

theorem Holds.isReported (h : Holds t (some s) recent earlier) :
    s.isReported .increments t = true ↔ due t recent earlier ≠ [] := by
  cases h with
  | sums hne _ hu _ =>
      rw [MetricStream.isReported, hu]
      cases t with
      | cumulative => simp [due, hne]
      | delta => cases recent <;> simp [due]

theorem Holds.convert (h : Holds t (some s) recent earlier) :
    ∃ previous, convert s.value s.previous .increments t = (.total (due t recent earlier), previous) ∧
      (t = .cumulative → previous = some (.total (recent ++ earlier))) := by
  cases h with
  | sums _ hv _ hp =>
      cases t with
      | delta => exact ⟨s.previous, by rw [MetricStream.convert, hv]; rfl, fun he => by cases he⟩
      | cumulative =>
          have hprevious := hp rfl
          refine ⟨some (.total (recent ++ earlier)), ?_, fun _ => rfl⟩
          cases earlier with
          | nil =>
              rw [hprevious, hv, due, List.append_nil]
              rfl
          | cons e earlier =>
              rw [hprevious, hv, due, ← Number.total_add_total]
              rfl

/-- A collection reports what is due, and nothing is recent afterwards. -/
theorem Holds.collect (h : Holds t (some s) recent earlier) (hi : i.aggregator = .increments)
    (last now : Time) : Holds t (some (s.collect i t last now).2) [] (recent ++ earlier) ∧
      (due t recent earlier = [] → (s.collect i t last now).1 = none) ∧
      (due t recent earlier ≠ [] → ∃ start, (s.collect i t last now).1 = some ⟨i.name, i.description,
        i.unit, s.attributes, .sum ⟨t, true, start, now, .total (due t recent earlier)⟩⟩) := by
  obtain ⟨previous, hconvert, hprevious⟩ := h.convert
  have hne := h.append_ne_nil
  have hearlier : (recent ++ earlier).isEmpty = false := List.isEmpty_eq_false_iff.mpr hne
  by_cases hd : due t recent earlier = []
  · have hno : ¬ s.isReported i.aggregator t = true :=
      fun hr => (h.isReported.mp (hi ▸ hr)) hd
    have ht : t ≠ .cumulative := by
      rintro rfl
      exact hne hd
    rw [MetricStream.collect, if_neg hno, hi]
    exact ⟨.sums hne rfl rfl fun hc => absurd hc ht, fun _ => rfl, fun hc => absurd hd hc⟩
  · have hyes : s.isReported i.aggregator t = true := hi ▸ h.isReported.mpr hd
    have hpoint : ∃ start, s.point i.aggregator t last now =
        (.sum ⟨t, true, start, now, .total (due t recent earlier)⟩, previous) := by
      rw [hi]
      unfold MetricStream.point
      rw [hconvert]
      exact ⟨_, rfl⟩
    obtain ⟨start, hpoint⟩ := hpoint
    rw [MetricStream.collect, if_pos hyes, hpoint, hi]
    refine ⟨.sums hne rfl rfl fun hc => ?_, fun hc => absurd hc hd, fun _ => ⟨start, rfl⟩⟩
    rw [hearlier]
    exact hprevious hc

end MetricStream

end Telemetry
