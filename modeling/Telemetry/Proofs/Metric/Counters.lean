import Telemetry.Proofs.Metric.Streams

/-!
# What counters add up to

The history of a meter is a list of what happened to its readers, the newest first: that a reader was
registered, that a counter was told an increment, that a reader was collected.  An increment that an
observable instrument makes when it is asked stands before the collection that it is asked for.  From
a history alone it can be said what a collection has to report of a counter: to a reader of totals the
sum of all that was added since the reader was registered, and to a reader of differences the sum of
what was added since the last collection.

Ledgers hold these sums (`Follows`).  Each thing that can happen keeps it so, and observations do not
touch the streams of counters at all.  A collection is nothing to the counters that it does not find,
so that each counter has a history of its own.
-/

namespace Telemetry

open MetricStream (key Holds due)

/-- What happens to the readers of a meter. -/
inductive MeterEvent where
  | joined (reader : ReaderId) (temporality : Temporality)
  | told (increment : Increment)
  | collected (reader : ReaderId)

namespace MeterEvent

/-! ## The reference -/

/-- The integer that is added to a counter about some attributes.  A negative one is not. -/
def accepted? (c : InstrumentId) (a : Attributes) : MeterEvent → Option Int64
  | .told i =>
    match i.value with
    | .i64 n => if i.counter = c ∧ i.attributes.sameKey a = true ∧ 0 ≤ n then some n else none
    | .f64 _ => none
  | .joined _ _ | .collected _ => none

/-- All that is added to a counter about some attributes. -/
def added (c : InstrumentId) (a : Attributes) (es : List MeterEvent) : List Int64 :=
  es.filterMap (accepted? c a)

def joins (r : ReaderId) : MeterEvent → Bool
  | .joined r' _ => r' == r
  | .told _ | .collected _ => false

def collects (r : ReaderId) : MeterEvent → Bool
  | .collected r' => r' == r
  | .told _ | .joined _ _ => false

/-- What has happened since a reader was registered. -/
def sinceJoined (r : ReaderId) (es : List MeterEvent) : List MeterEvent := es.takeWhile (!·.joins r)

/-- What has happened since a reader was last collected, or else registered. -/
def sinceCollected (r : ReaderId) (es : List MeterEvent) : List MeterEvent :=
  (sinceJoined r es).takeWhile (!·.collects r)

/-- What a collection for a reader of a temporality is about. -/
def window (t : Temporality) (r : ReaderId) (es : List MeterEvent) : List MeterEvent :=
  match t with
  | .cumulative => sinceJoined r es
  | .delta => sinceCollected r es

/-- Whether all that a counter was told are integers. -/
def Whole (c : InstrumentId) (es : List MeterEvent) : Prop :=
  ∀ i, .told i ∈ es → i.counter = c → ∃ n, i.value = .i64 n

/-! ## Recent and earlier increments -/

def recent (c : InstrumentId) (a : Attributes) (r : ReaderId) (es : List MeterEvent) : List Int64 :=
  added c a (sinceCollected r es)

def earlier (c : InstrumentId) (a : Attributes) (r : ReaderId) (es : List MeterEvent) : List Int64 :=
  added c a ((sinceJoined r es).dropWhile (!·.collects r))

variable {c : InstrumentId} {a : Attributes} {r : ReaderId} {e : MeterEvent} {es : List MeterEvent}

theorem recent_append_earlier : recent c a r es ++ earlier c a r es = added c a (sinceJoined r es) := by
  rw [recent, earlier, sinceCollected, added, added, ← List.filterMap_append,
    List.takeWhile_append_dropWhile, added]

theorem added_window (t : Temporality) :
    added c a (window t r es) = due t (recent c a r es) (earlier c a r es) := by
  cases t with
  | cumulative => exact recent_append_earlier.symm
  | delta => rfl

theorem sinceJoined_cons (hj : e.joins r = false) : sinceJoined r (e :: es) = e :: sinceJoined r es :=
  List.takeWhile_cons_of_pos (by simp [hj])

theorem recent_cons (hj : e.joins r = false) (hc : e.collects r = false) :
    recent c a r (e :: es) = (accepted? c a e).toList ++ recent c a r es := by
  rw [recent, sinceCollected, sinceJoined_cons hj, List.takeWhile_cons_of_pos (by simp [hc])]
  cases h : accepted? c a e with
  | none => exact List.filterMap_cons_none h
  | some n => exact List.filterMap_cons_some h

theorem earlier_cons (hj : e.joins r = false) (hc : e.collects r = false) :
    earlier c a r (e :: es) = earlier c a r es := by
  rw [earlier, sinceJoined_cons hj, List.dropWhile_cons_of_pos (by simp [hc])]
  rfl

theorem recent_collected : recent c a r (.collected r :: es) = [] := by
  have hr : (MeterEvent.collected r).collects r = true := beq_self_eq_true r
  rw [recent, sinceCollected, sinceJoined_cons rfl, List.takeWhile_cons_of_neg (by simp [hr])]
  rfl

theorem earlier_collected :
    earlier c a r (.collected r :: es) = recent c a r es ++ earlier c a r es := by
  have hr : (MeterEvent.collected r).collects r = true := beq_self_eq_true r
  rw [earlier, sinceJoined_cons rfl, List.dropWhile_cons_of_neg (by simp [hr]), recent_append_earlier]
  rfl

theorem recent_joined {t : Temporality} : recent c a r (.joined r t :: es) = [] := by
  have hr : (MeterEvent.joined r t).joins r = true := beq_self_eq_true r
  rw [recent, sinceCollected, sinceJoined, List.takeWhile_cons_of_neg (by simp [hr])]
  rfl

theorem earlier_joined {t : Temporality} : earlier c a r (.joined r t :: es) = [] := by
  have hr : (MeterEvent.joined r t).joins r = true := beq_self_eq_true r
  rw [earlier, sinceJoined, List.takeWhile_cons_of_neg (by simp [hr])]
  rfl

theorem Whole.tail (h : Whole c (e :: es)) : Whole c es := fun i hi => h i (List.mem_cons_of_mem _ hi)

theorem accepted?_eq_some_iff {n : Int64} : accepted? c a e = some n ↔
    ∃ i, e = .told i ∧ i.value = .i64 n ∧ (c, a) = (i.counter, i.attributes) ∧ 0 ≤ n := by
  constructor
  · intro h
    cases e with
    | joined | collected => cases h
    | told i =>
        unfold accepted? at h
        dsimp only at h
        split at h
        next k hk =>
          obtain ⟨⟨hc, ha, hpos⟩, hn⟩ := Option.ite_none_right_eq_some.mp h
          rw [Option.some.inj hn] at hk hpos
          exact ⟨i, rfl, hk, by rw [hc, Attributes.sameKey_iff.mp ha], hpos⟩
        next => cases h
  · rintro ⟨i, rfl, hv, hca, hpos⟩
    obtain ⟨rfl, rfl⟩ := Prod.mk.inj hca
    unfold accepted?
    dsimp only
    rw [hv]
    exact if_pos ⟨rfl, Attributes.sameKey_iff.mpr rfl, hpos⟩

theorem accepted?_told_eq_none {i : Increment}
    (h : i.value.isNegative = true ∨ (c, a) ≠ (i.counter, i.attributes)) :
    accepted? c a (.told i) = none := by
  refine Option.eq_none_iff_forall_ne_some.mpr fun n hn => ?_
  obtain ⟨j, hj, hv, hca, hpos⟩ := accepted?_eq_some_iff.mp hn
  cases hj
  rcases h with hneg | hne
  · rw [hv, Number.isNegative_i64, decide_eq_true_eq] at hneg
    exact Int64.not_le.mpr hneg hpos
  · exact hne hca

theorem nonneg_of_mem_added {n : Int64} (h : n ∈ added c a es) : 0 ≤ n := by
  obtain ⟨e, -, he⟩ := List.mem_filterMap.mp h
  obtain ⟨-, -, -, -, hpos⟩ := accepted?_eq_some_iff.mp he
  exact hpos

/-- What was added was told. -/
theorem exists_told_of_added (h : added c a es ≠ []) : ∃ i, .told i ∈ es ∧ i.counter = c := by
  obtain ⟨n, hn⟩ := List.exists_mem_of_ne_nil _ h
  obtain ⟨e, he, hacc⟩ := List.mem_filterMap.mp hn
  obtain ⟨i, rfl, -, hca, -⟩ := accepted?_eq_some_iff.mp hacc
  exact ⟨i, he, (Prod.mk.inj hca).1.symm⟩

/-- A counter that was told nothing has nothing added. -/
theorem recent_earlier_of_untold (h : ∀ i, .told i ∈ es → i.counter ≠ c) :
    recent c a r es = [] ∧ earlier c a r es = [] := by
  rw [← List.append_eq_nil_iff, recent_append_earlier]
  by_contra hne
  obtain ⟨i, hi, hc⟩ := exists_told_of_added hne
  exact h i ((List.takeWhile_sublist _).subset hi) hc

end MeterEvent

/-! ## Meters and their histories -/

namespace Meter

open MeterEvent (recent earlier added Whole window)

def IsCounter (m : Meter) (c : InstrumentId) : Prop :=
  ∃ i, m.instruments[c]? = some i ∧ i.aggregator = .increments

def IsObservable (instruments : List Instrument) (c : InstrumentId) : Prop :=
  ∃ i, instruments[c]? = some i ∧ i.aggregator.isObservable = true

/-- The increments that the observable instruments make when they are asked. -/
def called (m : Meter) (reports : InstrumentId → Report) : List Increment :=
  m.observables.flatMap fun id => (reports id).increments

/-- The meter when the observable instruments have been asked for a reader. -/
def asked (m : Meter) (r : ReaderId) (reports : InstrumentId → Report) : Meter :=
  m.observables.foldl (fun m id => m.observeAll r id (reports id).observations)
    (m.addAll (m.called reports)).1

/-- The points of a collection, with the instruments that they are of. -/
def reported (m : Meter) (r : ReaderId) (reports : InstrumentId → Report) (now : Time) :
    List (InstrumentId × Metric) :=
  match (m.asked r reports).ledger? r with
  | some l => l.reported (m.asked r reports).instruments now
  | none => []

/-- A meter that has come about by collections that nobody disturbs, with its history.  Only counters of
the meter are told increments. -/
inductive Run (views : List View) : List MeterEvent → Meter → Prop where
  | start : Run views [] (.ofViews views)
  | register {es m} (i : Instrument) : Run views es m → Run views es (m.register i).1
  | registerReader {es m} (t : Temporality) (now : Time) : Run views es m →
      Run views (.joined m.nextReader t :: es) (m.registerReader t now).1
  | dropReader {es m} (r : ReaderId) : Run views es m → Run views es (m.dropReader r)
  | add {es m} (i : Increment) : Run views es m → m.IsCounter i.counter →
      Run views (.told i :: es) (m.add i).1
  | collect {es m} (r : ReaderId) (reports : InstrumentId → Report) (now : Time) : Run views es m →
      (∀ i ∈ m.called reports, m.IsCounter i.counter) →
      Run views (.collected r :: ((m.called reports).reverse.map .told ++ es)) (m.collect r reports now).1

/-! ## What ledgers hold -/

/-- A ledger of a reader that goes with what has happened to each instrument. -/
structure Follows (instruments : List Instrument) (es : InstrumentId → List MeterEvent) (r : ReaderId)
    (l : Ledger) : Prop where
  distinct : (l.streams.map key).Nodup
  joined : ∀ c, .joined r l.temporality ∈ es c
  holds : ∀ c, ¬ IsObservable instruments c → Whole c (es c) → ∀ a,
    Holds l.temporality (l.stream? c a) (recent c a r (es c)) (earlier c a r (es c))

/-- What holds of every meter that has come about, with what has happened to each of its
instruments. -/
structure Keeps (m : Meter) (es : InstrumentId → List MeterEvent) : Prop where
  told : ∀ c i, .told i ∈ es c → m.IsCounter i.counter
  fresh : ∀ e ∈ m.readers, e.1 < m.nextReader
  follows : ∀ e ∈ m.readers, Follows m.instruments es e.1 e.2

/-- The same when one history is that of all instruments. -/
abbrev Sound (m : Meter) (es : List MeterEvent) : Prop := m.Keeps fun _ => es

/-- What has happened to each instrument when a collection has been made that found some of them. -/
def collecting (found : List Instrument) (r : ReaderId) (es : InstrumentId → List MeterEvent) :
    InstrumentId → List MeterEvent :=
  fun c => if c < found.length then .collected r :: es c else es c

variable {m : Meter} {es : InstrumentId → List MeterEvent} {r : ReaderId} {l : Ledger}
  {found : List Instrument}

theorem IsCounter.not_observable {c : InstrumentId} (h : m.IsCounter c) :
    ¬ IsObservable m.instruments c := by
  rintro ⟨i, hi, ho⟩
  obtain ⟨j, hj, hc⟩ := h
  have he : i = j := Option.some.inj (hi.symm.trans hj)
  rw [he, hc] at ho
  cases ho

theorem mem_observablesAmong {c : InstrumentId} :
    c ∈ observablesAmong found ↔ IsObservable found c := by
  rw [observablesAmong, List.mem_map]
  constructor
  · rintro ⟨⟨i, k⟩, hk, rfl⟩
    obtain ⟨hk, ho⟩ := List.mem_filter.mp hk
    exact ⟨i, List.mem_zipIdx_iff_getElem?.mp hk, ho⟩
  · rintro ⟨i, hi, ho⟩
    exact ⟨(i, c), List.mem_filter.mpr ⟨List.mem_zipIdx_iff_getElem?.mpr hi, ho⟩, rfl⟩

/-- Something happens that is not about a counter, or not for this reader. -/
theorem Follows.quiet (h : Follows m.instruments es r l) {es' : InstrumentId → List MeterEvent}
    (he : ∀ c, es' c = es c ∨ ∃ e, es' c = e :: es c ∧ e.joins r = false ∧ e.collects r = false ∧
      ∀ a, e.accepted? c a = none) : Follows m.instruments es' r l where
  distinct := h.distinct
  joined c := by
    rcases he c with heq | ⟨e, heq, -⟩ <;> rw [heq]
    · exact h.joined c
    · exact List.mem_cons_of_mem _ (h.joined c)
  holds c hno hw a := by
    rcases he c with heq | ⟨e, heq, hj, hc, ha⟩ <;> rw [heq] at hw ⊢
    · exact h.holds c hno hw a
    · rw [MeterEvent.recent_cons hj hc, MeterEvent.earlier_cons hj hc, ha]
      exact h.holds c hno hw.tail a

theorem Follows.negative (h : Follows m.instruments es r l) {i : Increment}
    (hi : i.value.isNegative = true) : Follows m.instruments (fun c => .told i :: es c) r l :=
  h.quiet fun _ => .inr ⟨_, rfl, rfl, rfl, fun _ => MeterEvent.accepted?_told_eq_none (.inl hi)⟩

theorem Follows.told (h : Follows m.instruments es r l) {i : Increment} (hi : i.value.isNegative = false) :
    Follows m.instruments (fun c => .told i :: es c) r
      (l.add i.counter i.attributes i.value i.time) where
  distinct := Ledger.nodup_modify (MetricStream.keeps_add _) h.distinct
  joined c := List.mem_cons_of_mem _ (h.joined c)
  holds c hno hw a := by
    have hold := h.holds c hno hw.tail a
    rw [MeterEvent.recent_cons rfl rfl, MeterEvent.earlier_cons rfl rfl]
    by_cases hca : (c, a) = (i.counter, i.attributes)
    · obtain ⟨n, hn⟩ := hw i List.mem_cons_self (Prod.mk.inj hca).1.symm
      have hpos : 0 ≤ n := by
        rw [hn, Number.isNegative_i64, decide_eq_false_iff_not] at hi
        exact Int64.not_lt.mp hi
      rw [MeterEvent.accepted?_eq_some_iff.mpr ⟨i, rfl, hn, hca, hpos⟩]
      obtain ⟨rfl, rfl⟩ := Prod.mk.inj hca
      rw [hn, Ledger.stream?, Ledger.add, Ledger.find?_modify_self (MetricStream.keeps_add (.i64 n))]
      exact hold.add n _ _ _
    · rw [MeterEvent.accepted?_told_eq_none (.inr hca), Ledger.stream?, Ledger.add,
        Ledger.find?_modify_of_ne (MetricStream.keeps_add _) hca]
      exact hold

theorem Follows.observe (h : Follows m.instruments es r l) {id : InstrumentId}
    (hid : IsObservable m.instruments id) (o : Observation) :
    Follows m.instruments es r (l.observe id o.attributes o.value o.time) where
  distinct := Ledger.nodup_modify (MetricStream.keeps_observe _) h.distinct
  joined := h.joined
  holds c hno hw a := by
    have hca : (c, a) ≠ (id, o.attributes) := by
      intro he
      exact hno ((Prod.mk.inj he).1 ▸ hid)
    rw [Ledger.stream?, Ledger.observe, Ledger.find?_modify_of_ne (MetricStream.keeps_observe _) hca]
    exact h.holds c hno hw a

theorem Follows.observations (h : Follows m.instruments es r l) {id : InstrumentId}
    (hid : IsObservable m.instruments id) (os : List Observation) : Follows m.instruments es r
      (os.foldl (fun l o => l.observe id o.attributes o.value o.time) l) := by
  induction os generalizing l with
  | nil => exact h
  | cons o os ih => exact ih (h.observe hid o)

/-- The stream of a counter is collected as one that sums up increments, if the counter is found. -/
theorem collectStream_of_stream? {c : InstrumentId} {a : Attributes} {s : MetricStream}
    (hs : l.stream? c a = some s) (now : Time) : l.collectStream found now s =
      match found[c]? with
      | some i => s.collect i l.temporality l.lastCollected now
      | none => (none, s) := by
  obtain rfl : s.instrument = c := (Prod.mk.inj (Ledger.key_of_stream? hs)).1
  rfl

/-- What was found is still there. -/
theorem getElem?_of_found {is : List Instrument} (hf : found <+: is) {c : InstrumentId}
    {i : Instrument} (hi : found[c]? = some i) : is[c]? = some i := by
  obtain ⟨hlt, -⟩ := List.getElem?_eq_some_iff.mp hi
  obtain ⟨rest, rfl⟩ := hf
  exact (List.getElem?_append_left hlt).trans hi

/-- What was found and is not observable is a counter. -/
theorem increments_of_found (hf : found <+: m.instruments) {c : InstrumentId} {i : Instrument}
    (hi : found[c]? = some i) (hno : ¬ IsObservable m.instruments c) : i.aggregator = .increments := by
  have hm : m.instruments[c]? = some i := getElem?_of_found hf hi
  cases ha : i.aggregator with
  | increments => rfl
  | totals | lastValue => exact absurd ⟨i, hm, by rw [ha]; rfl⟩ hno

theorem Follows.collect (h : Follows m.instruments es r l) (hf : found <+: m.instruments)
    (now : Time) :
    Follows m.instruments (collecting found r es) r (l.collect found now).1 where
  distinct := by
    rw [Ledger.key_collect]
    exact h.distinct
  joined c := by
    unfold collecting
    split
    · exact List.mem_cons_of_mem _ (h.joined c)
    · exact h.joined c
  holds c hno hw a := by
    unfold collecting at hw ⊢
    rw [Ledger.stream?_collect]
    split at hw
    next hc =>
      rw [if_pos hc, MeterEvent.recent_collected, MeterEvent.earlier_collected]
      have hold := h.holds c hno hw.tail a
      cases hs : l.stream? c a with
      | none =>
          rw [hs] at hold
          rw [hold.eq_nil.1, hold.eq_nil.2]
          exact .nothing
      | some s =>
          rw [hs] at hold
          have hi : found[c]? = some found[c] := List.getElem?_eq_getElem hc
          rw [Option.map_some, collectStream_of_stream? hs, hi]
          exact (hold.collect (increments_of_found hf hi hno) _ _).1
    next hc =>
      -- the collection passes over the stream
      rw [if_neg hc]
      have hold := h.holds c hno hw a
      cases hs : l.stream? c a with
      | none => rwa [hs] at hold
      | some s =>
          rw [hs] at hold
          have hi : found[c]? = none := List.getElem?_eq_none (Nat.le_of_not_lt hc)
          rw [Option.map_some, collectStream_of_stream? hs, hi]
          exact hold

/-! ## Steps keep meters sound -/

theorem Follows.of_instruments {old new : List Instrument} (h : Follows old es r l)
    (ho : ∀ c, IsObservable old c → IsObservable new c) : Follows new es r l :=
  ⟨h.distinct, h.joined, fun c hno => h.holds c fun hc => hno (ho c hc)⟩

theorem mem_mapLedgers {f : ReaderId → Ledger → Ledger} {e : ReaderId × Ledger} :
    e ∈ (m.mapLedgers f).readers ↔ ∃ e₀ ∈ m.readers, (e₀.1, f e₀.1 e₀.2) = e := List.mem_map

/-- Ledgers may change all at once. -/
theorem Keeps.mapLedgers {es' : InstrumentId → List MeterEvent} {f : ReaderId → Ledger → Ledger}
    (h : m.Keeps es) (htold : ∀ c i, .told i ∈ es' c → m.IsCounter i.counter)
    (hf : ∀ e ∈ m.readers, Follows m.instruments es' e.1 (f e.1 e.2)) : (m.mapLedgers f).Keeps es' where
  told := htold
  fresh e he := by
    obtain ⟨e₀, he₀, rfl⟩ := mem_mapLedgers.mp he
    exact h.fresh e₀ he₀
  follows e he := by
    obtain ⟨e₀, he₀, rfl⟩ := mem_mapLedgers.mp he
    exact hf e₀ he₀

theorem Keeps.start (views : List View) : (ofViews views).Keeps fun _ => [] where
  told _ _ hi := nomatch hi
  fresh _ he := nomatch he
  follows _ he := nomatch he

theorem Keeps.register (h : m.Keeps es) (i : Instrument) : (m.register i).1.Keeps es := by
  have grown : ∀ {c : InstrumentId} {j : Instrument}, m.instruments[c]? = some j →
      (m.register i).1.instruments[c]? = some j :=
    getElem?_of_found (List.prefix_append m.instruments _)
  exact
    { told := fun c k hk => by
        obtain ⟨j, hj, hc⟩ := h.told c k hk
        exact ⟨j, grown hj, hc⟩
      fresh := h.fresh
      follows := fun e he => (h.follows e he).of_instruments fun c ⟨j, hj, ho⟩ => ⟨j, grown hj, ho⟩ }

theorem Keeps.registerReader (h : m.Keeps es) (t : Temporality) (now : Time) :
    (m.registerReader t now).1.Keeps fun c => .joined m.nextReader t :: es c where
  told c i hi := h.told c i ((List.mem_cons.mp hi).resolve_left fun he => by cases he)
  fresh e he := by
    rcases List.mem_append.mp he with he | he
    · exact Nat.lt_succ_of_lt (h.fresh e he)
    · rw [List.mem_singleton.mp he]
      exact Nat.lt_succ_self _
  follows e he := by
    rcases List.mem_append.mp he with he | he
    · have hne : (m.nextReader == e.1) = false := beq_false_of_ne (Nat.ne_of_gt (h.fresh e he))
      exact (h.follows e he).quiet fun _ => .inr ⟨.joined m.nextReader t, rfl, hne, rfl, fun _ => rfl⟩
    · rw [List.mem_singleton.mp he]
      refine ⟨List.nodup_nil, fun _ => List.mem_cons_self, fun c _ _ a => ?_⟩
      rw [MeterEvent.recent_joined, MeterEvent.earlier_joined]
      exact .nothing

theorem Keeps.dropReader (h : m.Keeps es) (r : ReaderId) : (m.dropReader r).Keeps es where
  told := h.told
  fresh e he := h.fresh e (List.mem_filter.mp he).1
  follows e he := h.follows e (List.mem_filter.mp he).1

theorem add_of_negative {i : Increment} (hi : i.value.isNegative = true) : (m.add i).1 = m := by
  rw [Meter.add, if_pos hi]

theorem Keeps.add (h : m.Keeps es) {i : Increment} (hc : m.IsCounter i.counter) :
    (m.add i).1.Keeps fun c => .told i :: es c := by
  have htold : ∀ c j, .told j ∈ MeterEvent.told i :: es c → m.IsCounter j.counter := by
    intro c j hj
    rcases List.mem_cons.mp hj with he | hj
    · cases he
      exact hc
    · exact h.told c j hj
  cases hi : i.value.isNegative with
  | true =>
      rw [add_of_negative hi]
      exact ⟨htold, h.fresh, fun e he => (h.follows e he).negative hi⟩
  | false =>
      rw [Meter.add, if_neg (by rw [hi]; exact Bool.false_ne_true)]
      exact h.mapLedgers (f := fun _ l => l.add i.counter i.attributes i.value i.time) htold
        fun e he => (h.follows e he).told hi

theorem instruments_add (i : Increment) : (m.add i).1.instruments = m.instruments := by
  unfold Meter.add
  split <;> rfl

theorem IsCounter.add {c : InstrumentId} (h : m.IsCounter c) (i : Increment) :
    (m.add i).1.IsCounter c := by
  rwa [IsCounter, instruments_add]

theorem Keeps.addAll {is : List Increment} (h : m.Keeps es) (hc : ∀ i ∈ is, m.IsCounter i.counter) :
    (m.addAll is).1.Keeps fun c => is.reverse.map .told ++ es c := by
  induction is generalizing m es with
  | nil => exact h
  | cons i is ih =>
      have hc' : ∀ j ∈ is, (m.add i).1.IsCounter j.counter :=
        fun j hj => (hc j (List.mem_cons_of_mem _ hj)).add i
      simp only [List.reverse_cons, List.map_append, List.append_assoc]
      exact ih (h.add (hc i List.mem_cons_self)) hc'

theorem Keeps.observeAll (h : m.Keeps es) {id : InstrumentId} (hid : IsObservable m.instruments id)
    (r : ReaderId) (os : List Observation) : (m.observeAll r id os).Keeps es := by
  unfold Meter.observeAll modifyLedger
  refine h.mapLedgers h.told fun e he => ?_
  split
  · exact (h.follows e he).observations hid os
  · exact h.follows e he

/-- The readers of a meter with their temporalities, and its instruments, are those of another. -/
structure Alike (m m' : Meter) : Prop where
  instruments : m'.instruments = m.instruments
  temporality : ∀ r, (m'.ledger? r).map (·.temporality) = (m.ledger? r).map (·.temporality)

theorem Alike.refl (m : Meter) : Alike m m := ⟨rfl, fun _ => rfl⟩

theorem Alike.trans {m₁ m₂ m₃ : Meter} (h : Alike m₁ m₂) (k : Alike m₂ m₃) : Alike m₁ m₃ :=
  ⟨k.instruments.trans h.instruments, fun r => (k.temporality r).trans (h.temporality r)⟩

theorem ledger?_mapLedgers (f : ReaderId → Ledger → Ledger) (r : ReaderId) :
    (m.mapLedgers f).ledger? r = (m.ledger? r).map (f r) := by
  unfold ledger? Meter.mapLedgers
  induction m.readers with
  | nil => rfl
  | cons e readers ih =>
      rw [List.map_cons, List.lookup_cons, List.lookup_cons, ih]
      cases hr : r == e.1 with
      | true => rw [eq_of_beq hr]; rfl
      | false => rfl

theorem Alike.mapLedgers {f : ReaderId → Ledger → Ledger} (hf : ∀ r l, (f r l).temporality = l.temporality) :
    Alike m (m.mapLedgers f) where
  instruments := rfl
  temporality r := by
    rw [ledger?_mapLedgers, Option.map_map]
    exact congrArg (Option.map · _) (funext fun l => hf r l)

theorem Alike.add (i : Increment) : Alike m (m.add i).1 := by
  unfold Meter.add
  split
  · exact .refl m
  · exact .mapLedgers (f := fun _ l => l.add i.counter i.attributes i.value i.time) fun _ _ => rfl

theorem Alike.addAll (is : List Increment) : Alike m (m.addAll is).1 := by
  induction is generalizing m with
  | nil => exact .refl m
  | cons i is ih => exact (Alike.add i).trans ih

theorem temporality_observations (id : InstrumentId) (os : List Observation) (l : Ledger) :
    (os.foldl (fun l o => l.observe id o.attributes o.value o.time) l).temporality = l.temporality := by
  induction os generalizing l with
  | nil => rfl
  | cons o os ih => exact ih (l.observe id o.attributes o.value o.time)

theorem Alike.observeAll (r : ReaderId) (id : InstrumentId) (os : List Observation) :
    Alike m (m.observeAll r id os) := by
  unfold Meter.observeAll modifyLedger
  refine .mapLedgers fun r' l => ?_
  split
  · exact temporality_observations id os l
  · rfl

theorem Alike.note (r : ReaderId) (found : List Instrument)
    (reported : InstrumentId → List Observation) : Alike m (m.note r found reported) := by
  unfold Meter.note
  induction observablesAmong found generalizing m with
  | nil => exact .refl m
  | cons id ids ih => exact (Alike.observeAll r id (reported id)).trans ih

/-- Observations are no matter of counters. -/
theorem Keeps.note (h : m.Keeps es) (hf : found <+: m.instruments) (r : ReaderId)
    (reported : InstrumentId → List Observation) : (m.note r found reported).Keeps es := by
  have hids : ∀ id ∈ observablesAmong found, IsObservable m.instruments id := by
    intro id hid
    obtain ⟨i, hi, ho⟩ := mem_observablesAmong.mp hid
    exact ⟨i, getElem?_of_found hf hi, ho⟩
  unfold Meter.note
  clear hf
  revert hids
  induction observablesAmong found generalizing m with
  | nil => exact fun _ => h
  | cons id ids ih =>
      intro hids
      refine ih (h.observeAll (hids id List.mem_cons_self) r _) fun k hk => ?_
      rw [IsObservable, (Alike.observeAll r id (reported id)).instruments]
      exact hids k (List.mem_cons_of_mem _ hk)

/-- The observable instruments have been asked, and have done no more than to add to counters. -/
theorem asked_eq_note (r : ReaderId) (reports : InstrumentId → Report) : m.asked r reports =
    (m.addAll (m.called reports)).1.note r m.instruments fun id => (reports id).observations := rfl

theorem Alike.asked (r : ReaderId) (reports : InstrumentId → Report) : Alike m (m.asked r reports) :=
  (Alike.addAll _).trans (asked_eq_note r reports ▸ Alike.note ..)

/-- Asking the observable instruments adds what they add, and does nothing else to counters. -/
theorem Keeps.asked (h : m.Keeps es) (r : ReaderId) {reports : InstrumentId → Report}
    (hc : ∀ i ∈ m.called reports, m.IsCounter i.counter) :
    (m.asked r reports).Keeps fun c => (m.called reports).reverse.map .told ++ es c :=
  (h.addAll hc).note ((Alike.addAll (m.called reports)).instruments ▸ List.prefix_rfl) r _

theorem mem_of_ledger? (h : m.ledger? r = some l) : (r, l) ∈ m.readers := by
  obtain ⟨front, back, he, -⟩ := List.lookup_eq_some_iff.mp h
  rw [he]
  exact List.mem_append_right _ List.mem_cons_self

theorem told_of_collecting {c : InstrumentId} {i : Increment} (h : .told i ∈ collecting found r es c) :
    .told i ∈ es c := by
  unfold collecting at h
  split at h
  · exact (List.mem_cons.mp h).resolve_left fun he => by cases he
  · exact h

/-- The ledger of a reader is reported to it, as far as it is about instruments that were found. -/
theorem Keeps.collected (h : m.Keeps es) (hf : found <+: m.instruments) (r : ReaderId) (now : Time) :
    (match m.ledger? r with
      | none => m
      | some l => m.modifyLedger r fun _ => (l.collect found now).1).Keeps (collecting found r es) := by
  have others : ∀ e ∈ m.readers, e.1 ≠ r → Follows m.instruments (collecting found r es) e.1 e.2 := by
    refine fun e he hne => (h.follows e he).quiet fun c => ?_
    unfold collecting
    split
    · exact .inr ⟨_, rfl, rfl, beq_false_of_ne (Ne.symm hne), fun _ => rfl⟩
    · exact .inl rfl
  have htold : ∀ c i, .told i ∈ collecting found r es c → m.IsCounter i.counter :=
    fun c i hi => h.told c i (told_of_collecting hi)
  cases hl : m.ledger? r with
  | none =>
      refine ⟨htold, h.fresh, fun e he => others e he ?_⟩
      have hne := List.lookup_eq_none_iff.mp hl e he
      exact fun heq => by simp [heq] at hne
  | some l =>
      refine h.mapLedgers htold fun e he => ?_
      split
      next heq =>
        rw [heq]
        exact (h.follows _ (mem_of_ledger? hl)).collect hf now
      next hne => exact others e he hne

theorem finish_eq (r : ReaderId) (found : List Instrument) (reported : InstrumentId → List Observation)
    (now : Time) : m.finish r found reported now =
      match (m.note r found reported).ledger? r with
      | none => (m.note r found reported, [])
      | some l => ((m.note r found reported).modifyLedger r fun _ => (l.collect found now).1,
          (l.collect found now).2) := rfl

theorem collect_eq_finish (r : ReaderId) (reports : InstrumentId → Report) (now : Time) :
    (m.collect r reports now).1 = ((m.addAll (m.called reports)).1.finish r m.instruments
        (fun id => (reports id).observations) now).1 ∧
    (m.collect r reports now).2.1 = ((m.addAll (m.called reports)).1.finish r m.instruments
        (fun id => (reports id).observations) now).2 := ⟨rfl, rfl⟩

theorem Keeps.finish (h : m.Keeps es) (hf : found <+: m.instruments) (r : ReaderId)
    (reported : InstrumentId → List Observation) (now : Time) :
    (m.finish r found reported now).1.Keeps (collecting found r es) := by
  have hnote := (h.note hf r reported).collected
    (((Alike.note r found reported).instruments (m := m)).symm ▸ hf) r now
  rw [finish_eq]
  split at hnote <;> exact hnote

theorem collect_eq (r : ReaderId) (reports : InstrumentId → Report) (now : Time) :
    (m.collect r reports now).1 = (match (m.asked r reports).ledger? r with
      | none => m.asked r reports
      | some l =>
        (m.asked r reports).modifyLedger r fun _ => (l.collect (m.asked r reports).instruments now).1) ∧
    (m.collect r reports now).2.1 = (m.reported r reports now).map (·.2) := by
  rw [(collect_eq_finish r reports now).1, (collect_eq_finish r reports now).2, finish_eq,
    ← asked_eq_note, reported, (Alike.asked r reports).instruments]
  cases (m.asked r reports).ledger? r with
  | none => exact ⟨rfl, rfl⟩
  | some l => exact ⟨rfl, Ledger.collect_metrics ..⟩

/-- To an instrument that is not there nothing has happened that counts. -/
theorem Keeps.of_absent {es' : InstrumentId → List MeterEvent} (h : m.Keeps es)
    (he : ∀ c, c < m.instruments.length → es' c = es c)
    (htold : ∀ c i, .told i ∈ es' c → m.IsCounter i.counter)
    (hj : ∀ e ∈ m.readers, ∀ c, .joined e.1 e.2.temporality ∈ es' c) : m.Keeps es' where
  told := htold
  fresh := h.fresh
  follows e hm := by
    refine ⟨(h.follows e hm).distinct, hj e hm, fun c hno hw a => ?_⟩
    by_cases hc : c < m.instruments.length
    · rw [he c hc] at hw ⊢
      exact (h.follows e hm).holds c hno hw a
    · have untold : ∀ {fs : List MeterEvent}, (∀ i, .told i ∈ fs → m.IsCounter i.counter) →
          ∀ i, .told i ∈ fs → i.counter ≠ c := by
        rintro fs hfs i hi rfl
        obtain ⟨j, hj, -⟩ := hfs i hi
        exact hc (List.getElem?_eq_some_iff.mp hj).1
      have hold := (h.follows e hm).holds c hno
        (fun i hi hci => absurd hci (untold (h.told c) i hi)) a
      have hnew := MeterEvent.recent_earlier_of_untold (a := a) (r := e.1) (untold (htold c))
      have hother := MeterEvent.recent_earlier_of_untold (a := a) (r := e.1) (untold (h.told c))
      rw [hother.1, hother.2] at hold
      rwa [hnew.1, hnew.2]

theorem instruments_finish (r : ReaderId) (found : List Instrument)
    (reported : InstrumentId → List Observation) (now : Time) :
    (m.finish r found reported now).1.instruments = m.instruments := by
  rw [finish_eq]
  split <;> exact (Alike.note r found reported).instruments

/-- A collection that nobody disturbs finds all instruments. -/
theorem Keeps.collect {es : List MeterEvent} (h : m.Sound es) (r : ReaderId)
    {reports : InstrumentId → Report} (hc : ∀ i ∈ m.called reports, m.IsCounter i.counter) (now : Time) :
    (m.collect r reports now).1.Sound (.collected r :: ((m.called reports).reverse.map .told ++ es)) := by
  have hsame := (Alike.addAll (m := m) (m.called reports)).instruments
  have hfound : m.instruments <+: (m.addAll (m.called reports)).1.instruments :=
    ⟨[], by rw [List.append_nil, hsame]⟩
  have hfin := (Keeps.addAll h hc).finish hfound r (fun id => (reports id).observations) now
  rw [← (collect_eq_finish r reports now).1] at hfin
  refine hfin.of_absent (fun c hlt => ?_) (fun c i hi => hfin.told c i ?_) fun e he c => ?_
  · rw [(collect_eq_finish r reports now).1, instruments_finish, hsame] at hlt
    rw [collecting, if_pos hlt]
  · have hi := (List.mem_cons.mp hi).resolve_left fun he => by cases he
    unfold collecting
    split
    · exact List.mem_cons_of_mem _ hi
    · exact hi
  · have hj := (hfin.follows e he).joined c
    unfold collecting at hj
    split at hj
    · exact hj
    · exact List.mem_cons_of_mem _ hj

theorem Run.sound {views : List View} {es : List MeterEvent} (h : Run views es m) : m.Sound es := by
  induction h with
  | start => exact Keeps.start views
  | register i _ ih => exact Keeps.register ih i
  | registerReader t now _ ih => exact Keeps.registerReader ih t now
  | dropReader r _ ih => exact Keeps.dropReader ih r
  | add i _ hc ih => exact Keeps.add ih hc
  | collect r reports now _ hc ih => exact Keeps.collect ih r hc now

/-! ## Collections -/

/-- The points of one counter and one set of attributes. -/
def pointsOf (c : InstrumentId) (a : Attributes) (points : List (InstrumentId × Metric)) :
    List (InstrumentId × Metric) :=
  points.filter fun e => e.1 == c && e.2.attributes.sameKey a

/-- Points as they have to be for the increments that are due: none if there are none, and else one
with the sum, which is exact as long as it fits and else wraps around. -/
structure Matches (points : List Metric) (i : Instrument) (a : Attributes) (t : Temporality) (now : Time)
    (ns : List Int64) : Prop where
  none : ns = [] → points = []
  one : ns ≠ [] → ∃ start n,
    points = [⟨i.name, i.description, i.unit, a, .sum ⟨t, true, start, now, .i64 n⟩⟩] ∧
      n.toInt = (sumOf ns).bmod Int64.size ∧ (sumOf ns ≤ Int64.maxValue.toInt → n.toInt = sumOf ns)

/-- What is reported for a reader of a counter that a collection finds. -/
theorem Follows.matches_due (h : Follows m.instruments es r l) {c : InstrumentId} {i : Instrument}
    (hno : ¬ IsObservable m.instruments c) (hi : found[c]? = some i) (hinc : i.aggregator = .increments)
    (hw : Whole c (es c)) (a : Attributes) (now : Time) :
    Matches ((pointsOf c a (l.reported found now)).map (·.2)) i a l.temporality now
      (added c a (window l.temporality r (es c))) := by
  have hold := h.holds c hno hw a
  have hnonneg : 0 ≤ sumOf (added c a (window l.temporality r (es c))) :=
    sumOf_nonneg fun _ hn => MeterEvent.nonneg_of_mem_added hn
  rw [MeterEvent.added_window] at hnonneg ⊢
  rw [pointsOf, Ledger.filter_reported h.distinct]
  cases hs : l.stream? c a with
  | none =>
      have hdue : due l.temporality (recent c a r (es c)) (earlier c a r (es c)) = [] := by
        rw [hs] at hold
        rw [hold.eq_nil.1, hold.eq_nil.2]
        cases l.temporality <;> rfl
      exact ⟨fun _ => rfl, fun hne => absurd hdue hne⟩
  | some s =>
      rw [hs] at hold
      have hattr : s.attributes = a := (Prod.mk.inj (Ledger.key_of_stream? hs)).2
      obtain ⟨-, hnone, hsome⟩ := hold.collect hinc l.lastCollected now
      rw [Option.bind_some, collectStream_of_stream? hs, hi]
      refine ⟨fun hd => by rw [hnone hd]; rfl, fun hd => ?_⟩
      obtain ⟨start, hm⟩ := hsome hd
      refine ⟨start, _, by rw [hm, hattr]; rfl, Int64.toInt_ofInt, fun hle => ?_⟩
      exact Int64.toInt_ofInt_of_le (Int.le_trans (by decide) hnonneg) (Int.lt_of_le_of_lt hle (by decide))

end Meter

end Telemetry
