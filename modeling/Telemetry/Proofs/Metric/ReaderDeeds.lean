import Telemetry.Proofs.Metric.ReaderWorks

/-!
# Readers and their accounts

The *deeds* of a reader's worker are what others may notice of it: that it is time for a collection,
the requests that it takes up and answers, collections and exporter calls that begin and end.
`Acts` is `Works` with deeds, and with the times that the worker compares.  An *account* is a reader
with the deeds of its worker so far.  It serves the desk of the reader, so that offices of accounts
are readers with everybody who uses them, of which it is known what they did.
-/

namespace Telemetry.PeriodicReader

open Worker (CallerId Desk Request Attends Staffed Office)

variable {r q : PeriodicReader} {x : Option (Request Unit)}

/-! ## Deeds -/

/-- What a worker does that others may notice. -/
inductive Deed where
  | ticked (now : Nat)
  | took (x : Request Unit)
  /-- The source was asked. -/
  | asked
  /-- A collection ended at some time, and should have ended before its deadline. -/
  | collected (deadline now : Nat) (outcome : Outcome (List Metric))
  | began (call : ExporterCall Metric)
  | ended (call : ExporterCall Metric) (outcome : Outcome ExportResult)
  | answered (caller : CallerId) (result : PipelineResult)

namespace Deed

/-- The worker turns to something for which it collects. -/
def isCause : Deed → Bool
  | .ticked _ | .took _ => true
  | _ => false

def isAsked : Deed → Bool
  | .asked => true
  | _ => false

def request? : Deed → Option (Request Unit)
  | .took x => some x
  | _ => none

def call? : Deed → Option (ExporterCall Metric)
  | .began call => some call
  | _ => none

/-- Who is answered. -/
def answered? : Deed → Option CallerId
  | .answered k _ => some k
  | _ => none

/-- The batch that is handed to the exporter. -/
def batch? : Deed → Option (List Metric)
  | .began (.deliver batch) => some batch
  | _ => none

/-- What a collection returned before its deadline, unless that is nothing. -/
def timely? : Deed → Option (List Metric)
  | .collected deadline now (.returned metrics) =>
    if metrics ≠ [] ∧ now < deadline then some metrics else none
  | _ => none

/-- What a collection returned too late, unless that is nothing. -/
def late? : Deed → Option (List Metric)
  | .collected deadline now (.returned metrics) =>
    if metrics ≠ [] ∧ deadline ≤ now then some metrics else none
  | _ => none

/-- A collection returned something, if it is nothing. -/
def isReturn : Deed → Bool
  | .collected _ _ (.returned _) => true
  | _ => false

/-- What went wrong, if anything did. -/
def failure? : Deed → Option PipelineError
  | .collected _ _ .panicked => some (.exporter (.other collectionPanic))
  | .collected deadline now (.returned metrics) =>
    if metrics ≠ [] ∧ deadline ≤ now then some .timeout else none
  | .ended call o =>
    match o.result call.name with
    | .ok () => none
    | .error e => some (.exporter e)
  | _ => none

end Deed

/-- The deeds with which an event begins. -/
def deedsBefore (e : Event) (r : PeriodicReader) : List Deed :=
  match e, r.activity with
  | .wake .control _, _ => (r.desk.take?.map fun t => Deed.took t.1).toList
  | .wake .timer now, _ => [.ticked now]
  | .work _, .answering k result _ => [.answered k result]
  | .work _, _ => []
  | .collect now o, .collecting _ deadline => [.collected deadline now o]
  | .collect _ _, _ => []
  | .conclude o, _ => (r.call?.map (Deed.ended · o)).toList

/-- The deeds with which an event ends: what the worker waits for after it. -/
def deedsAfter (q : PeriodicReader) : List Deed :=
  if q.isCollecting then [.asked] else (q.call?.map .began).toList

/-- The deeds of a worker in an event. -/
def deeds (e : Event) (r q : PeriodicReader) : List Deed := deedsBefore e r ++ deedsAfter q

/-! ## Collections that return -/

/-- A collection returns. -/
def Event.isReturn : Event → Bool
  | .collect _ (.returned _) => true
  | _ => false

theorem Deed.collected_eq_none {d : Deed} (h : d.isReturn = false) :
    d.timely? = none ∧ d.late? = none := by
  cases d with
  | collected deadline now o => cases o with
    | returned => cases h
    | panicked => exact ⟨rfl, rfl⟩
  | _ => exact ⟨rfl, rfl⟩

theorem isReturn_deedsBefore {e : Event} (he : e.isReturn = false) :
    ∀ d ∈ deedsBefore e r, d.isReturn = false := by
  intro d hd
  cases e with
  | wake cause now => cases cause with
    | control =>
        obtain ⟨t, -, rfl⟩ := Option.map_eq_some_iff.1 (Option.mem_toList.1 hd)
        rfl
    | timer => rw [List.mem_singleton.1 hd]; rfl
  | work now =>
      unfold deedsBefore at hd
      cases ha : r.activity <;> simp only [ha] at hd
      case answering => rw [List.mem_singleton.1 hd]; rfl
      all_goals cases hd
  | collect now o => cases o with
    | returned => cases he
    | panicked =>
        unfold deedsBefore at hd
        cases ha : r.activity <;> simp only [ha] at hd
        case collecting => rw [List.mem_singleton.1 hd]; rfl
        all_goals cases hd
  | conclude o =>
      obtain ⟨c, -, rfl⟩ := Option.map_eq_some_iff.1 (Option.mem_toList.1 hd)
      rfl

theorem isReturn_deedsAfter : ∀ d ∈ deedsAfter q, d.isReturn = false := by
  intro d hd
  unfold deedsAfter at hd
  split at hd
  next => rw [List.mem_singleton.1 hd]; rfl
  next =>
    obtain ⟨c, -, rfl⟩ := Option.map_eq_some_iff.1 (Option.mem_toList.1 hd)
    rfl

/-- The deeds of an event tell of collections that return only if it is one. -/
theorem isReturn_deeds {e : Event} (he : e.isReturn = false) :
    ∀ d ∈ deeds e r q, d.isReturn = false := by
  intro d hd
  rcases List.mem_append.1 hd with hd | hd
  · exact isReturn_deedsBefore he d hd
  · exact isReturn_deedsAfter d hd

theorem deeds_returned {occasion : Occasion} {deadline now : Nat} {metrics : List Metric}
    (hi : r.activity = .collecting occasion deadline) :
    deeds (.collect now (.returned metrics)) r q =
      .collected deadline now (.returned metrics) :: deedsAfter q := by
  simp only [deeds, deedsBefore, hi, List.singleton_append]

/-! ## What the worker can do -/

/-- The steps of a reader's worker with the requests that it takes up and its deeds in them. -/
inductive Acts (r : PeriodicReader) : Option (Request Unit) → List Deed → PeriodicReader → Prop where
  | take {x d} : r.activity = .idle → r.desk.take? = some (x, d) →
      Acts r (some x) [.took x, .asked]
        { r with desk := d, activity := .collecting (.serving x) x.deadline }
  | tick {now} : r.activity = .idle →
      Acts r none [.ticked now, .asked]
        { r with activity := .collecting .tick (now + r.config.exportTimeout) }
  | panic {occasion deadline now} : r.activity = .collecting occasion deadline →
      Acts r none [.collected deadline now .panicked] { r with
        activity := .exported (.error (.exporter (.other collectionPanic))) occasion deadline }
  | nothing {occasion deadline now} : r.activity = .collecting occasion deadline →
      Acts r none [.collected deadline now (.returned [])]
        { r with activity := .exported (.ok ()) occasion deadline }
  | overrun {metrics occasion deadline now} : r.activity = .collecting occasion deadline →
      metrics ≠ [] → deadline ≤ now →
      Acts r none [.collected deadline now (.returned metrics)]
        { r with activity := .exported (.error .timeout) occasion deadline }
  | hand {metrics occasion deadline now} : r.activity = .collecting occasion deadline →
      metrics ≠ [] → now < deadline →
      Acts r none [.collected deadline now (.returned metrics), .began (.deliver metrics)]
        { r with activity := .exporting metrics occasion deadline }
  | exported {metrics occasion deadline o} : r.activity = .exporting metrics occasion deadline →
      Acts r none [.ended (.deliver metrics) o]
        { r with activity := .exported (o.result "export").lift occasion deadline }
  | rest {result deadline next} : r.activity = .exported result .tick deadline →
      Acts r none [] { r with activity := .idle, nextCollection := next }
  | flush {k result deadline} : r.activity = .exported result (.flush k) deadline →
      Acts r none [.began .flush] { r with activity := .flushingExporter k result }
  | flushed {k result o} : r.activity = .flushingExporter k result →
      Acts r none [.ended .flush o]
        { r with activity := .answering k (result.and (o.result "flush").lift) false }
  | close {k result deadline now} : r.activity = .exported result (.shutdown k) deadline →
      Acts r none [.began (.shutdown (deadline - now))]
        { r with activity := .closingExporter k (deadline - now) result }
  | closed {k timeout result o} : r.activity = .closingExporter k timeout result →
      Acts r none [.ended (.shutdown timeout) o]
        { r with activity := .stopping k (result.and (o.result "shutdown").lift) }
  | stop {k result} : r.activity = .stopping k result →
      Acts r none [] { r with desk := r.desk.mark .stopped, activity := .answering k result true }
  | answer {k result} : r.activity = .answering k result false →
      Acts r none [.answered k result]
        { r with desk := r.desk.answer k result, activity := .idle }
  | bow {k result} : r.activity = .answering k result true →
      Acts r none [.answered k result]
        { r with desk := r.desk.answer k result, activity := .leaving }
  | leave : r.activity = .leaving →
      Acts r none [] { r with desk := r.desk.leave, activity := .gone }

theorem Acts.of_rouse? {now : Nat} {cause : Waking} {logs : List LogEntry}
    (hi : r.activity = .idle) (ho : r.isOrphan = false)
    (h : r.rouse? now cause = some (q, logs)) :
    Acts r (r.taken? cause) (deeds (.wake cause now) r q) q := by
  have ht := tells_of_rouse? h
  cases cause with
  | control =>
      simp only [rouse?, if_pos ht] at h
      split at h
      next x d hd =>
        cases h
        simpa [deeds, deedsBefore, deedsAfter, taken?, isCollecting, hd] using Acts.take hi hd
      next => simp [ho] at h
  | timer =>
      simp only [rouse?, if_pos ht] at h
      split at h
      next => cases h; exact .tick hi
      next => cases h

theorem Acts.of_advance? {now : Nat} {logs : List LogEntry} (hi : r.activity ≠ .idle)
    (h : r.advance? now = some (q, logs)) : Acts r none (deeds (.work now) r q) q := by
  cases ha : r.activity with
  | idle => exact absurd ha hi
  | exported result occasion deadline =>
      cases occasion with
      | tick =>
          simp only [advance?, ha] at h
          cases h
          simpa [deeds, deedsBefore, deedsAfter, isCollecting, call?, ha] using Acts.rest ha
      | flush k =>
          simp only [advance?, ha] at h
          cases h
          simpa [deeds, deedsBefore, deedsAfter, isCollecting, call?, ha] using Acts.flush ha
      | shutdown k =>
          simp only [advance?, ha] at h
          cases h
          simpa [deeds, deedsBefore, deedsAfter, isCollecting, call?, ha] using Acts.close ha
  | stopping k result =>
      simp only [advance?, ha] at h
      cases h
      simpa [deeds, deedsBefore, deedsAfter, isCollecting, call?, ha] using Acts.stop ha
  | answering k result last =>
      simp only [advance?, ha] at h
      cases h
      cases last with
      | false => simpa [deeds, deedsBefore, deedsAfter, isCollecting, call?, ha] using Acts.answer ha
      | true => simpa [deeds, deedsBefore, deedsAfter, isCollecting, call?, ha] using Acts.bow ha
  | leaving =>
      simp only [advance?, ha] at h
      cases h
      simpa [deeds, deedsBefore, deedsAfter, isCollecting, call?, ha] using Acts.leave ha
  | collecting | exporting | flushingExporter | closingExporter | gone =>
      simp only [advance?, ha] at h
      cases h

theorem Acts.of_collected (now : Nat) (o : Outcome (List Metric)) (h : r.isCollecting = true) :
    Acts r none (deeds (.collect now o) r (r.collected now o).1) (r.collected now o).1 := by
  unfold isCollecting at h
  split at h
  next occasion deadline ha =>
    cases o with
    | panicked =>
        simpa [deeds, deedsBefore, deedsAfter, collected, isCollecting, call?, ha] using Acts.panic ha
    | returned metrics =>
        simp only [collected, ha]
        split
        next hm =>
          obtain rfl := List.isEmpty_iff.1 hm
          simpa [deeds, deedsBefore, deedsAfter, isCollecting, call?, ha] using Acts.nothing ha
        next hm =>
          have hm : metrics ≠ [] := by simpa using hm
          split
          next hd =>
            simpa [deeds, deedsBefore, deedsAfter, isCollecting, call?, ha] using
              Acts.overrun ha hm hd
          next hd =>
            simpa [deeds, deedsBefore, deedsAfter, isCollecting, call?, ha] using
              Acts.hand ha hm (Nat.lt_of_not_le hd)
  next => cases h

theorem Acts.of_returned (o : Outcome ExportResult) {c : ExporterCall Metric}
    (h : r.call? = some c) :
    Acts r none (deeds (.conclude o) r (r.returned o).1) (r.returned o).1 := by
  unfold call? at h
  split at h
  next metrics occasion deadline ha =>
    simpa [deeds, deedsBefore, deedsAfter, returned, isCollecting, call?, ha] using Acts.exported ha
  next k result ha =>
    simpa [deeds, deedsBefore, deedsAfter, returned, isCollecting, call?, ha] using Acts.flushed ha
  next k timeout result ha =>
    simpa [deeds, deedsBefore, deedsAfter, returned, isCollecting, call?, ha] using Acts.closed ha
  next => cases h

theorem Acts.of_perform? {e : Event} (h : perform? e r = some (q, x)) (hs : r.Sound) :
    Acts r x (deeds e r q) q := by
  cases e with
  | wake cause now =>
      simp only [perform?] at h
      split at h
      next q _ hi hq => cases h; exact .of_rouse? hi hs.held hq
      next => cases h
  | work now =>
      simp only [perform?] at h
      split at h
      next => cases h
      next q _ hq hi => cases h; exact .of_advance? hi hq
      next => cases h
  | collect now o =>
      simp only [perform?] at h
      split at h
      next hc => cases h; exact .of_collected now o hc
      next => cases h
  | conclude o =>
      simp only [perform?] at h
      split at h
      next => cases h
      next c hc => cases h; exact .of_returned o hc

section Acts

variable {ds : List Deed}

/-- The deeds tell which request is taken up. -/
theorem Acts.requests (h : Acts r x ds q) : ds.filterMap Deed.request? = x.toList := by
  cases h <;> rfl

/-- The source is asked when the worker turns to something. -/
theorem Acts.asks (h : Acts r x ds q) :
    ds.countP Deed.isAsked = ds.countP Deed.isCause := by
  cases h <;> rfl

/-- A collection in time is handed over at once, and nothing else is. -/
theorem Acts.hands (h : Acts r x ds q) :
    ds.filterMap Deed.batch? = ds.filterMap Deed.timely? := by
  cases h with
  | nothing => rfl
  | overrun _ _ hd => simp [List.filterMap_cons, Deed.batch?, Deed.timely?, Nat.not_lt.2 hd]
  | hand _ hm hd => simp [List.filterMap_cons, Deed.batch?, Deed.timely?, hm, hd]
  | _ => rfl

end Acts

/-! ## Accounts -/

/-- A reader and the deeds of its worker so far. -/
structure Account where
  reader : PeriodicReader
  deeds : List Deed

namespace Account

/-- The batches that were handed to the exporter, oldest first. -/
def handed (a : Account) : List (List Metric) := a.deeds.filterMap Deed.batch?

/-- What was collected in time, without the collections that had nothing to say. -/
def timely (a : Account) : List (List Metric) := a.deeds.filterMap Deed.timely?

/-- What was collected too late, without the collections that had nothing to say. -/
def late (a : Account) : List (List Metric) := a.deeds.filterMap Deed.late?

/-- The calls of the exporter that have begun. -/
def calls (a : Account) : List (ExporterCall Metric) := a.deeds.filterMap Deed.call?

/-- The requests that were taken up. -/
def requests (a : Account) : List (Request Unit) := a.deeds.filterMap Deed.request?

/-- Who was answered. -/
def answered (a : Account) : List CallerId := a.deeds.filterMap Deed.answered?

/-- The account after an event, if it is possible, with the request that the worker takes up. -/
def perform? (e : Event) (a : Account) : Option (Account × Option (Request Unit)) :=
  match PeriodicReader.perform? e a.reader with
  | none => none
  | some (q, x) => some (⟨q, a.deeds ++ PeriodicReader.deeds e a.reader q⟩, x)

/-- The account of a reader that was built of valid settings, before anything happens. -/
def Opens (a : Account) : Prop := a.reader.Opens ∧ a.deeds = []

theorem perform?_eq_some {e : Event} {a b : Account} (h : perform? e a = some (b, x)) :
    PeriodicReader.perform? e a.reader = some (b.reader, x) ∧
      b.deeds = a.deeds ++ PeriodicReader.deeds e a.reader b.reader := by
  unfold perform? at h
  split at h
  next => cases h
  next q _ hq => cases h; exact ⟨hq, rfl⟩

/-- An account does what its reader does. -/
theorem perform?_of_reader {e : Event} {a : Account}
    (h : PeriodicReader.perform? e a.reader = some (q, x)) :
    perform? e a = some (⟨q, a.deeds ++ PeriodicReader.deeds e a.reader q⟩, x) := by
  simp only [perform?, h]

theorem acts {e : Event} {a b : Account} (h : perform? e a = some (b, x)) (hs : a.reader.Sound) :
    ∃ ds, b.deeds = a.deeds ++ ds ∧ Acts a.reader x ds b.reader := by
  obtain ⟨hr, hd⟩ := perform?_eq_some h
  exact ⟨_, hd, .of_perform? hr hs⟩

/-- Nothing more is collected unless a collection returns. -/
theorem timely_of_quiet {e : Event} {a b : Account} (he : e.isReturn = false)
    (h : perform? e a = some (b, x)) : b.timely = a.timely ∧ b.late = a.late := by
  have hq := isReturn_deeds (r := a.reader) (q := b.reader) he
  simp only [timely, late, (perform?_eq_some h).2, List.filterMap_append,
    List.filterMap_eq_nil_iff.2 fun d hd => (Deed.collected_eq_none (hq d hd)).1,
    List.filterMap_eq_nil_iff.2 fun d hd => (Deed.collected_eq_none (hq d hd)).2, List.append_nil,
    and_self]

/-- What a collection returns is in time or late. -/
theorem timely_of_returned {a b : Account} {occasion : Occasion} {deadline now : Nat}
    {metrics : List Metric} (hi : a.reader.activity = .collecting occasion deadline)
    (h : perform? (.collect now (.returned metrics)) a = some (b, x)) :
    b.timely.flatten = a.timely.flatten ++ (if now < deadline then metrics else []) ∧
      b.late.flatten = a.late.flatten ++ (if now < deadline then [] else metrics) := by
  have hq := isReturn_deedsAfter (q := b.reader)
  simp only [timely, late, (perform?_eq_some h).2, deeds_returned hi, List.filterMap_append,
    List.filterMap_cons, List.flatten_append, Deed.timely?, Deed.late?, ← Nat.not_lt,
    List.filterMap_eq_nil_iff.2 fun d hd => (Deed.collected_eq_none (hq d hd)).1,
    List.filterMap_eq_nil_iff.2 fun d hd => (Deed.collected_eq_none (hq d hd)).2]
  by_cases hm : metrics = [] <;> by_cases hl : now < deadline <;> simp [hm, hl]

instance : Staffed Account Unit Event where
  desk a := a.reader.desk
  withDesk d a := { a with reader := { a.reader with desk := d } }
  mark _ := ()
  perform? := perform?
  status a := a.reader.activity.status
  Opens := Opens
  Sound a := a.reader.Sound
  desk_withDesk _ _ := rfl
  withDesk_desk _ := rfl
  status_withDesk _ _ := rfl
  sound_withDesk _ _ h := ⟨h.held, h.truthful⟩
  desk_of_opens a h := Staffed.desk_of_opens a.reader h.1
  status_of_opens a h := Staffed.status_of_opens a.reader h.1
  sound_of_opens a h := Staffed.sound_of_opens a.reader h.1
  sound_perform? e a b x h := Staffed.sound_perform? e a.reader b.reader x (perform?_eq_some h).1
  attends e a b x h := Staffed.attends e a.reader b.reader x (perform?_eq_some h).1
  bow a k h := by
    obtain ⟨e, q, he, hq⟩ := Staffed.bow a.reader k h
    exact ⟨e, _, perform?_of_reader he, hq⟩
  leave a h := by
    obtain ⟨e, q, he, hq⟩ := Staffed.leave a.reader h
    exact ⟨e, _, perform?_of_reader he, hq⟩

end Account

/-- What is kept by everything that workers do holds of the account of every reader. -/
theorem account_of_reachable {P : Account → Prop}
    (hi : ∀ config now, P ⟨.start config now, []⟩)
    (hw : ∀ {a : Account} {x ds q}, P a → Acts a.reader x ds q → P ⟨q, a.deeds ++ ds⟩)
    (hd : ∀ {a : Account} d, P a → P { a with reader := { a.reader with desk := d } })
    {o : Office Account Unit} (h : o.Reachable) : P o.machine := by
  obtain ⟨⟨r, ds⟩, ⟨ho, hds⟩, hs⟩ := h
  obtain ⟨config, now, rfl⟩ := ho.eq_start
  obtain rfl : ds = [] := hds
  refine (hs.keeps (fun e a b x hp hsound ha => ?_) (fun d a ha => hd (a := a) d ha)
    (Staffed.sound_of_opens (α := Account) _ ⟨ho, rfl⟩) (hi config now)).1
  obtain ⟨ds, hb, hact⟩ := Account.acts hp hsound
  obtain ⟨q, _⟩ := b
  obtain rfl := hb
  exact hw ha hact

end Telemetry.PeriodicReader
