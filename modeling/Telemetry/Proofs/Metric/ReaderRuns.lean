import Telemetry.Proofs.Metric.ReaderRounds

/-!
# What readers do in every run

Three more things about the deeds of a reader hold in every office.  The exporter is not called any
more when it has been asked to shut down (`Closes`), every answer lies at the desk for the caller that
it is for (`Recorded`), and a call returns such an answer unless it came too late for one (`Heard`).
A worker that does not sleep gets on whatever the source and the exporter do, and comes back to where
it waits, or leaves after a shutdown (`exists_onward`).  `Diligent` collects what is known of a reader.
-/

namespace Telemetry.PeriodicReader

open Worker (CallerId Desk Request Order Phase Staffed Office Front Learns)

variable {r q : PeriodicReader} {x : Option (Request Unit)} {ds : List Deed}

/-! ## The last exporter call -/

/-- A shutdown of the exporter is the last of its calls, and is made by a worker that is about to
leave. -/
def Closes (y : ReaderActivity) (calls : List (ExporterCall Metric)) : Prop :=
  match y with
  | .closingExporter _ _ _ | .stopping _ _ | .answering _ _ true | .leaving | .gone =>
    ∃ before timeout, calls = before ++ [.shutdown timeout] ∧ ∀ t, .shutdown t ∉ before
  | _ => ∀ t, .shutdown t ∉ calls

theorem Acts.closes {calls : List (ExporterCall Metric)} (h : Closes r.activity calls)
    (hw : Acts r x ds q) : Closes q.activity (calls ++ ds.filterMap Deed.call?) := by
  cases hw with
  | close hi => rw [hi] at h; exact ⟨calls, _, rfl, h⟩
  | closed hi | stop hi | bow hi | leave hi =>
      rw [hi] at h
      change Closes _ (calls ++ [])
      rw [List.append_nil]
      exact h
  | take hi | tick hi | panic hi | nothing hi | overrun hi | hand hi | exported hi | rest hi
  | flush hi | flushed hi | answer hi =>
      rw [hi] at h
      intro t ht
      rcases List.mem_append.1 ht with ht | ht
      · exact h t ht
      · simp [List.filterMap_cons, Deed.call?] at ht

theorem Closes.last {y : ReaderActivity} {calls : List (ExporterCall Metric)} (h : Closes y calls)
    {timeout : Nat} (ht : .shutdown timeout ∈ calls) :
    ∃ before, calls = before ++ [.shutdown timeout] ∧ ∀ t, .shutdown t ∉ before := by
  unfold Closes at h
  split at h
  all_goals first | exact absurd ht (h timeout) | skip
  all_goals
    obtain ⟨before, timeout', rfl, hb⟩ := h
    rcases List.mem_append.1 ht with ht | ht
    · exact absurd ht (hb timeout)
    · cases List.mem_singleton.1 ht
      exact ⟨before, rfl, hb⟩

/-! ## Answers -/

/-- A worker touches the places of those in the inbox and of the one that it answers. -/
theorem Acts.reply (hw : Acts r x ds q) {j : CallerId} (hin : j ∉ r.desk.inbox.map (·.caller))
    (hans : ∀ k result last, r.activity = .answering k result last → j ≠ k) :
    q.desk.reply j = r.desk.reply j := by
  cases hw with
  | take _ ht => rw [(Desk.take?_eq_some ht).2]
  | answer hi | bow hi =>
      simp only [Desk.reply_answer, if_neg (hans _ _ _ hi)]
  | leave => simp only [Desk.leave_eq, if_neg hin]
  | _ => rfl

theorem Acts.answers (hw : Acts r x ds q) {k : CallerId} {result : PipelineResult}
    (h : .answered k result ∈ ds) : q.desk.reply k = .answered result := by
  cases hw with
  | answer | bow => cases List.mem_singleton.1 h; simp [Desk.answer]
  | _ => simp at h

/-- The requests of which the deeds tell are those that were taken up, and every answer is at its
place. -/
structure Recorded (o : Office Account Unit) : Prop where
  taken : o.handled = o.machine.requests
  replies : ∀ k result, .answered k result ∈ o.machine.deeds →
    o.machine.reader.desk.reply k = .answered result

theorem mem_answered {a : Account} {k : CallerId} {result : PipelineResult}
    (h : .answered k result ∈ a.deeds) : k ∈ a.answered :=
  List.mem_filterMap.2 ⟨_, h, rfl⟩

theorem Recorded.step {o o' : Office Account Unit} (h : Recorded o) (ho : o.Reachable)
    (hs : o.Step o') : Recorded o' := by
  obtain ⟨rounds, part, hk⟩ := kept_of_reachable ho
  -- who was answered has sent a request, which the worker has taken up
  have hknown : ∀ k ∈ o.machine.answered, k ∈ o.handled.map (·.caller) := by
    intro k hm
    rw [h.taken, hk.answered]
    exact List.mem_append_left _ hm
  have hdist : (o.handled.map (·.caller) ++ o.machine.reader.desk.inbox.map (·.caller)).Nodup := by
    rw [← List.map_append]
    exact ho.lawful.filed.distinct
  cases hs.moves with
  | @inside e a y ha =>
      obtain ⟨ds, hds, hw⟩ := Account.acts ha ho.sound
      refine ⟨?_, fun k result hm => ?_⟩
      · change o.handled ++ y.toList = a.deeds.filterMap Deed.request?
        rw [hds, List.filterMap_append, hw.requests, h.taken, Account.requests]
      · rw [hds] at hm
        rcases List.mem_append.1 hm with hm | hm
        · rw [← h.replies k result hm]
          have hans := mem_answered hm
          refine hw.reply (fun hin => ?_) (fun j s last hi => ?_)
          · exact (List.nodup_append.1 hdist).2.2 k (hknown k hans) k hin rfl
          · rintro rfl
            have hn := (List.nodup_append.1 hdist).1
            rw [h.taken, hk.answering hi] at hn
            exact (List.nodup_append.1 hn).2.2 k hans k (List.mem_singleton_self _) rfl
        · exact hw.answers hm
  | come => exact ⟨h.taken, h.replies⟩
  | @call k order p d p' hc hcall =>
      refine ⟨h.taken, fun j result hm => ?_⟩
      rw [← h.replies j result hm]
      obtain ⟨y, hy, rfl⟩ := List.mem_map.1 (hknown j (mem_answered hm))
      obtain ⟨c, hcy, -, hspent⟩ := ho.lawful.filed.sent y (List.mem_append_left _ hy)
      by_cases hj : y.caller = k
      · -- the caller has sent its request, and sends no other one
        rw [hj] at hcy ⊢
        obtain rfl := Option.some.inj (hc.symm.trans hcy)
        cases hcall with
        | send | sendOnly => exact hspent.elim
        | _ => rfl
      · exact hcall.reply_of_ne hj

theorem recorded_of_reachable {o : Office Account Unit} (h : o.Reachable) : Recorded o := by
  obtain ⟨a, ha, hs⟩ := h
  induction hs with
  | refl =>
      refine ⟨?_, fun k result hm => ?_⟩
      · change [] = a.deeds.filterMap _
        rw [ha.2]
        rfl
      · change _ ∈ a.deeds at hm
        rw [ha.2] at hm
        cases hm
  | tail hs step ih => exact ih.step ⟨a, ha, hs⟩ step

/-- An answer that lies at the desk was given. -/
theorem Acts.answered_of_reply (hw : Acts r x ds q) {k : CallerId} {result : PipelineResult}
    (h : q.desk.reply k = .answered result) :
    r.desk.reply k = .answered result ∨ .answered k result ∈ ds := by
  cases hw with
  | take _ ht => rw [(Desk.take?_eq_some ht).2] at h; exact .inl h
  | @answer j s | @bow j s =>
      simp only [Desk.reply_answer] at h
      split at h
      next hk => cases h; exact .inr (hk ▸ List.mem_singleton_self _)
      next => exact .inl h
  | leave =>
      simp only [Desk.leave_eq] at h
      split at h
      next => cases h
      next => exact .inl h
  | _ => exact .inl h

/-- Where the result of a call may come from: the worker has answered so, to a flush itself, or the
time was over, or the worker was shut down. -/
def Told (ds : List Deed) (k : CallerId) (order : Order Unit) (result : PipelineResult) : Prop :=
  (∃ j, .answered j result ∈ ds ∧ (order = .flush () → j = k)) ∨ result = .error .timeout ∨
    result = .error .shutdown

theorem Told.append {k : CallerId} {order : Order Unit} {result : PipelineResult}
    (h : Told ds k order result) (es : List Deed) : Told (ds ++ es) k order result :=
  h.imp_left fun ⟨j, hj, ho⟩ => ⟨j, List.mem_append_left es hj, ho⟩

/-- A shutdown may return what another one was told. -/
theorem Told.shutdown {j k : CallerId} {order : Order Unit} {result : PipelineResult}
    (h : Told ds j order result) : Told ds k .shutdown result :=
  h.imp_left fun ⟨i, hi, _⟩ => ⟨i, hi, fun ho => by cases ho⟩

/-- Every answer at the desk was given by the worker, and so was every result that a caller or the
verdict has, unless the time was over or the worker was shut down. -/
structure Heard (o : Office Account Unit) : Prop where
  replies : ∀ k result, o.machine.reader.desk.reply k = .answered result →
    .answered k result ∈ o.machine.deeds
  outcomes : ∀ k c result, o.callers k = some c → c.phase.outcome? = some result →
    Told o.machine.deeds k c.order result
  verdict : ∀ k result, o.machine.reader.desk.verdict = some result →
    Told o.machine.deeds k .shutdown result

/-- What a caller learns in a step was said by the worker, or is the end of the time or of the
worker. -/
theorem Heard.learned {o : Office Account Unit} (h : Heard o) (ho : o.Reachable) {k : CallerId}
    {order : Order Unit} {p : Phase Unit} {result : PipelineResult}
    (hk : o.callers k = some ⟨order, p⟩) (hl : Learns o.machine.reader.desk k p result) :
    Told o.machine.deeds k order result := by
  cases hl with
  | before hb => exact h.outcomes k _ result hk hb
  | late ht => exact .inr (.inl ht)
  | refused hs => exact .inr (.inr hs)
  | answered ha => exact .inl ⟨k, h.replies k result ha, fun _ => rfl⟩
  | verdict hp hv =>
      obtain rfl : order = .shutdown := by
        have := (ho.lawful.seated k _ hk).fits
        rwa [hp] at this
      exact h.verdict k result hv
  | left hl hg =>
      have hgone := ho.lawful.aligned.gone_eq (hl.elim id (ho.lawful.truthful.abandoned k))
      exact .inr (.inr (hg.trans (congrArg _ hgone)))

theorem Heard.step {o o' : Office Account Unit} (h : Heard o) (ho : o.Reachable)
    (hs : o.Step o') : Heard o' := by
  cases hs.moves with
  | @inside e a y ha =>
      obtain ⟨ds, hds, hw⟩ := Account.acts ha ho.sound
      refine ⟨fun k result hr => ?_, fun k c result hk hr => ?_, fun k result hv => ?_⟩ <;> rw [hds]
      · rcases hw.answered_of_reply hr with hr | hm
        · exact List.mem_append_left _ (h.replies k result hr)
        · exact List.mem_append_right _ hm
      · exact (h.outcomes k c result hk hr).append ds
      · have hframe := (Staffed.attends _ _ _ _ ha ho.sound).frame.2
        exact (h.verdict k result (hframe.symm.trans hv)).append ds
  | @come k order _ =>
      refine ⟨h.replies, fun j c result hj hr => ?_, h.verdict⟩
      rcases Front.seat_eq_some hj with ⟨rfl, rfl⟩ | ⟨-, hc⟩
      · cases order <;> cases hr
      · exact h.outcomes j c result hc hr
  | @call k order p d p' hk hc =>
      refine ⟨fun j result hr => ?_, fun j c result hj hr => ?_, fun j result hv => ?_⟩
      · exact h.replies j result (hc.answered_of_reply hr)
      · rcases Front.seat_eq_some hj with ⟨rfl, rfl⟩ | ⟨-, hj⟩
        · exact h.learned ho hk (hc.learns hr)
        · exact h.outcomes j c result hj hr
      · cases hc with
        | conclude => cases hv; exact (h.outcomes k _ result hk rfl).shutdown
        | _ => exact h.verdict j result hv

theorem heard_of_reachable {o : Office Account Unit} (h : o.Reachable) : Heard o := by
  obtain ⟨a, ha, hs⟩ := h
  induction hs with
  | refl =>
      have hd : a.reader.desk = .initial := Staffed.desk_of_opens a ha
      refine ⟨fun k result hr => ?_, fun k c result hk => (by cases hk), fun k result hv => ?_⟩
      · change a.reader.desk.reply k = _ at hr
        rw [hd] at hr
        cases hr
      · change a.reader.desk.verdict = _ at hv
        rw [hd] at hv
        cases hv
  | tail hs step ih => exact ih.step ⟨a, ha, hs⟩ step

/-- A flush returns well only if it was answered so. -/
theorem Heard.flushed {o : Office Account Unit} (h : Heard o) {k : CallerId}
    (hk : o.callers k = some ⟨.flush (), .done (.ok ())⟩) :
    .answered k (.ok ()) ∈ o.machine.deeds := by
  rcases h.outcomes k _ _ hk rfl with ⟨j, hj, ho⟩ | hr | hr
  · rwa [← ho rfl]
  · cases hr
  · cases hr

/-! ## Getting on -/

/-- What happens next to a worker that does not sleep: its collection or its exporter call ends, or
it goes on by itself. -/
def next (r : PeriodicReader) (now : Nat) (o : Outcome (List Metric)) (o' : Outcome ExportResult) :
    Event :=
  if r.isCollecting then .collect now o
  else if r.call?.isSome then .conclude o' else .work now

/-- How the clock, the source and the exporter behave, given what has happened. -/
abbrev Surroundings := Account → Nat × Outcome (List Metric) × Outcome ExportResult

/-- One step of a worker that does not sleep. -/
def Onward (env : Surroundings) (a b : Account) : Prop :=
  Account.perform? (a.reader.next (env a).1 (env a).2.1 (env a).2.2) a = some (b, none)

theorem exists_perform?_next (hi : r.activity ≠ .idle) (hg : r.activity ≠ .gone) (now : Nat)
    (o : Outcome (List Metric)) (o' : Outcome ExportResult) :
    ∃ q, perform? (r.next now o o') r = some (q, none) := by
  cases ha : r.activity with
  | idle => exact absurd ha hi
  | gone => exact absurd ha hg
  | exported result occasion deadline =>
      cases occasion <;> simp [next, perform?, isCollecting, call?, advance?, ha]
  | _ => simp [next, perform?, isCollecting, call?, advance?, ha]

theorem Acts.remaining_lt (h : Acts r x ds q) (hi : r.activity ≠ .idle) :
    q.activity.remaining < r.activity.remaining := by
  cases h with
  | take ha | tick ha => exact absurd ha hi
  | panic ha | nothing ha | overrun ha | hand ha | exported ha | rest ha | flush ha | flushed ha
  | close ha | closed ha | stop ha | answer ha | bow ha | leave ha =>
      rw [ha]
      simp [ReaderActivity.remaining]

/-- A worker that does not sleep leaves the inbox alone until it leaves. -/
theorem Acts.inbox (h : Acts r none ds q) (hg : q.activity ≠ .gone) :
    q.desk.inbox = r.desk.inbox := by
  cases h with
  | leave => exact absurd rfl hg
  | _ => rfl

/-- A worker comes back to where it waits, or leaves, and takes up nothing else before. -/
theorem exists_onward (env : Surroundings) {a : Account} (hs : a.reader.Sound)
    (hk : ∃ rounds part, Kept a rounds part) :
    ∃ b, Relation.ReflTransGen (Onward env) a b ∧ b.requests = a.requests ∧
      (b.reader.activity = .idle ∧ b.reader.desk.inbox = a.reader.desk.inbox ∨
        b.reader.activity = .gone ∧ ∃ y ∈ b.requests, y.order = .shutdown) := by
  induction hn : a.reader.activity.remaining using Nat.strongRecOn generalizing a with
  | ind n ih =>
    obtain ⟨rounds, part, hkept⟩ := hk
    by_cases hi : a.reader.activity = .idle
    · exact ⟨a, .refl, rfl, .inl ⟨hi, rfl⟩⟩
    by_cases hg : a.reader.activity = .gone
    · exact ⟨a, .refl, rfl, .inr ⟨hg, hkept.closed hg⟩⟩
    obtain ⟨⟨q, es⟩, hon⟩ : ∃ b, Onward env a b := by
      obtain ⟨q, hq⟩ := exists_perform?_next hi hg (env a).1 (env a).2.1 (env a).2.2
      exact ⟨_, Account.perform?_of_reader hq⟩
    obtain ⟨ds, hds, hw⟩ := Account.acts hon hs
    obtain rfl : es = a.deeds ++ ds := hds
    have hreq : Account.requests ⟨q, a.deeds ++ ds⟩ = a.requests := by
      rw [Account.requests, List.filterMap_append, hw.requests]
      exact List.append_nil _
    obtain ⟨rounds', part', hkept'⟩ := hkept.acts hw
    by_cases hqg : q.activity = .gone
    · exact ⟨_, .single hon, hreq, .inr ⟨hqg, hkept'.closed hqg⟩⟩
    · obtain ⟨b, hsteps, hb, hend⟩ := ih _ (hn ▸ hw.remaining_lt hi)
        (a := ⟨q, a.deeds ++ ds⟩) (Staffed.sound_perform? _ a _ _ hon hs)
        ⟨_, _, hkept'⟩ rfl
      refine ⟨b, .head hon hsteps, hb.trans hreq, hend.imp_left ?_⟩
      rintro ⟨hidle, hin⟩
      exact ⟨hidle, hin.trans (hw.inbox hqg)⟩

/-! ## All of it -/

/-- What is known of a reader that somebody holds. -/
structure Diligent (o : Office Account Unit) : Prop where
  /-- The worker makes one round after the other, and nothing comes after a shutdown.  Each round
  tells of one collection, of its export, of the flush or shutdown of the exporter that follows, and
  of the answer, which says that all went well if nothing failed in the round. -/
  rounds : ∃ (rounds : List (Round o.machine.reader.config.exportTimeout)) (part : List Deed),
    o.machine.deeds = rounds.flatMap Round.deeds ++ part ∧
      (∃ round : Round o.machine.reader.config.exportTimeout, part <+: round.deeds) ∧
      (∀ before round after, rounds = before ++ round :: after → round.isShutdown = true →
        after = [] ∧ part = []) ∧
      ∀ round ∈ rounds, ∀ k result, .answered k result ∈ round.deeds →
        (result = .ok () ↔ ∀ d ∈ round.deeds, d.failure? = none)
  /-- The requests that are handled are those of the rounds. -/
  requests : o.handled = o.machine.requests
  /-- The source is asked once for each tick and each request. -/
  asked : o.machine.deeds.countP Deed.isAsked = o.machine.deeds.countP Deed.isCause
  /-- What is exported is what was collected in time. -/
  handed : o.machine.handed = o.machine.timely
  /-- A shutdown of the exporter is its last call. -/
  closing : ∀ timeout, .shutdown timeout ∈ o.machine.calls →
    ∃ before, o.machine.calls = before ++ [.shutdown timeout] ∧ ∀ t, .shutdown t ∉ before
  /-- Answers lie at the desk for their callers. -/
  replies : ∀ k result, .answered k result ∈ o.machine.deeds →
    o.machine.reader.desk.reply k = .answered result
  /-- A call returns what the worker has answered, to a flush itself, unless it has waited for too
  long or the worker was shut down. -/
  told : ∀ k order result, o.callers k = some ⟨order, .done result⟩ →
    Told o.machine.deeds k order result
  /-- A worker that sleeps, with a time for its next collection that the clock can tell, takes up the
  oldest request at any time. -/
  requested : ∀ y now, o.machine.reader.activity = .idle →
    Clock.Tells o.machine.reader.nextCollection → o.machine.reader.desk.inbox.head? = some y →
    ∃ b, Account.perform? (.wake .control now) o.machine = some (b, some y)
  /-- A worker that sleeps notices when a collection is due, and begins it if the clock can tell its
  deadline. -/
  due : ∀ now, o.machine.reader.activity = .idle → o.machine.reader.config.exportInterval ≠ 0 →
    o.machine.reader.nextCollection ≤ now →
    Clock.Tells (now + o.machine.reader.config.exportTimeout) →
    ∃ b, Account.perform? (.wake .timer now) o.machine = some (b, none)
  /-- Whatever the source and the exporter do, the worker goes back to sleep with the same requests
  before it, unless it leaves for a shutdown that it has taken up. -/
  onward : ∀ env : Surroundings, ∃ b, Relation.ReflTransGen (Onward env) o.machine b ∧
    b.requests = o.machine.requests ∧
    (b.reader.activity = .idle ∧ b.reader.desk.inbox = o.machine.reader.desk.inbox ∨
      b.reader.activity = .gone ∧ ∃ y ∈ b.requests, y.order = .shutdown)

theorem exists_wake_control {a : Account} {y : Request Unit} {now : Nat}
    (hi : a.reader.activity = .idle) (hn : Clock.Tells a.reader.nextCollection)
    (hy : a.reader.desk.inbox.head? = some y) :
    ∃ b, Account.perform? (.wake .control now) a = some (b, some y) := by
  obtain ⟨rest, hr⟩ := List.head?_eq_some_iff.1 hy
  have ht : a.reader.desk.take? = some (y, { a.reader.desk with inbox := rest }) := by
    simp only [Desk.take?, hr]
  exact ⟨_, Account.perform?_of_reader
    (by simp only [perform?, rouse?, taken?, hi, ht, if_pos hn]; rfl)⟩

theorem exists_wake_timer {a : Account} {now : Nat} (hi : a.reader.activity = .idle)
    (hn : a.reader.config.exportInterval ≠ 0) (hd : a.reader.nextCollection ≤ now)
    (ht : Clock.Tells (now + a.reader.config.exportTimeout)) :
    ∃ b, Account.perform? (.wake .timer now) a = some (b, none) := by
  have hnext : Clock.Tells a.reader.nextCollection := ht.of_le (Nat.le_add_right_of_le hd)
  have hw : (a.reader.isDue now && decide (Clock.Tells (now + a.reader.config.exportTimeout))) = true := by
    simp [isDue, hn, hd, ht]
  exact ⟨_, Account.perform?_of_reader
    (by simp only [perform?, rouse?, hi, if_pos hnext, if_pos hw]; rfl)⟩

/-- What is exported is what was collected in time. -/
theorem handed_of_reachable {o : Office Account Unit} (h : o.Reachable) :
    o.machine.handed = o.machine.timely := by
  refine account_of_reachable (P := fun a => a.handed = a.timely)
    (fun _ _ => rfl) (fun {a x ds q} ha hw => ?_) (fun _ ha => ha) h
  exact (List.filterMap_append.trans (congrArg₂ _ ha hw.hands)).trans List.filterMap_append.symm

theorem diligent_of_reachable {o : Office Account Unit} (h : o.Reachable) : Diligent o where
  rounds := by
    obtain ⟨rounds, part, hk⟩ := kept_of_reachable h
    exact ⟨rounds, part, hk.deeds, hk.underway.isPrefix, fun _ _ _ => hk.final,
      fun round _ _ _ => round.answer_eq_ok_iff⟩
  requests := (recorded_of_reachable h).taken
  asked := by
    refine account_of_reachable
      (P := fun a => a.deeds.countP Deed.isAsked = a.deeds.countP Deed.isCause)
      (fun _ _ => rfl) (fun {a x ds q} ha hw => ?_) (fun _ ha => ha) h
    rw [List.countP_append, List.countP_append, ha, hw.asks]
  handed := handed_of_reachable h
  closing timeout ht := by
    refine Closes.last (y := o.machine.reader.activity) ?_ ht
    refine account_of_reachable (P := fun a => Closes a.reader.activity a.calls)
      (fun _ _ t ht => by cases ht) (fun {a x ds q} ha hw => ?_) (fun _ ha => ha) h
    rw [Account.calls, List.filterMap_append]
    exact hw.closes ha
  replies := (recorded_of_reachable h).replies
  told k _ result hk := (heard_of_reachable h).outcomes k _ result hk rfl
  requested _ _ hi hn hy := exists_wake_control hi hn hy
  due _ hi hn hd ht := exists_wake_timer hi hn hd ht
  onward env := exists_onward env h.sound (kept_of_reachable h)

/-- A collection on time panics, that of a flush is late, and the exporter panics when it is flushed;
the shutdown that follows goes well. -/
theorem diligent_of_troubled :
    ∃ (o : Office Account Unit) (m : Metric), Diligent o ∧
      o.machine.calls = [.flush, .deliver [m], .shutdown 2] ∧
      o.machine.reader.desk.reply 3 = .answered (.error .timeout) ∧
      o.machine.reader.desk.reply 7 = .answered (.ok ()) := by
  let m : Metric := ⟨"load", "", "", .empty, .gauge ⟨0, .i64 1⟩⟩
  obtain ⟨o, hr, hcalls, hflush, hshutdown⟩ : ∃ o : Office Account Unit, o.Reachable ∧
      o.machine.calls = [.flush, .deliver [m], .shutdown 2] ∧
      o.machine.reader.desk.reply 3 = .answered (.error .timeout) ∧
      o.machine.reader.desk.reply 7 = .answered (.ok ()) :=
    ⟨_, ⟨⟨start ⟨10, 5⟩ 0, []⟩, ⟨⟨⟨10, 5⟩, 0, rfl⟩, rfl⟩,
      Office.steps_of_run? [.inside (.wake .timer 10), .inside (.collect 11 .panicked),
        .inside (.work 12), .flush 3, .step 3 4 13, .step 3 4 13, .inside (.wake .control 14),
        .inside (.collect 20 (.returned [m])), .inside (.work 20), .inside (.conclude .panicked),
        .inside (.work 21), .shutdown 7, .step 7 5 22, .step 7 5 22, .step 7 5 22, .step 7 5 22,
        .inside (.wake .control 23), .inside (.collect 24 (.returned [m])),
        .inside (.conclude (.returned (.ok ()))), .inside (.work 25),
        .inside (.conclude (.returned (.ok ()))), .inside (.work 26), .inside (.work 26)] rfl⟩,
      rfl, rfl, rfl⟩
  exact ⟨o, m, diligent_of_reachable hr, hcalls, hflush, hshutdown⟩

/-- A flush without time returns that the time is over, although nothing failed and the worker has
answered so.  A reader with the longest timeout panics when a collection is due for the first time:
the source is not asked, and a flush that comes then is told that the worker is gone. -/
theorem unheard_and_perished :
    (∃ o : Office Account Unit, o.Reachable ∧
      o.callers 3 = some ⟨.flush (), .done (.error .timeout)⟩ ∧
      .answered 3 (.ok ()) ∈ o.machine.deeds ∧ ∀ d ∈ o.machine.deeds, d.failure? = none) ∧
    ∃ r q : PeriodicReader, build ⟨10, Clock.longest⟩ 0 = .ok r ∧ r.isDue 10 = true ∧
      r.advance? 10 = none ∧ r.perish? 10 = some q ∧ q.isCollecting = false ∧
      Phase.step? q.desk 3 5 11 (.sending (.flush ())) =
        some (q.desk, .done (.error .workerGone)) := by
  refine ⟨?_, start ⟨10, Clock.longest⟩ 0, _, rfl, rfl, rfl, rfl, rfl, rfl⟩
  obtain ⟨o, hr, hk, hd⟩ : ∃ o : Office Account Unit, o.Reachable ∧
      o.callers 3 = some ⟨.flush (), .done (.error .timeout)⟩ ∧
      o.machine.deeds = [.took ⟨3, .flush (), 1⟩, .asked, .collected 1 3 (.returned []),
        .began .flush, .ended .flush (.returned (.ok ())), .answered 3 (.ok ())] :=
    ⟨_, ⟨⟨start ⟨0, 5⟩ 0, []⟩, ⟨⟨⟨0, 5⟩, 0, rfl⟩, rfl⟩,
      Office.steps_of_run? [.flush 3, .step 3 0 1, .step 3 0 1, .inside (.wake .control 2),
        .inside (.collect 3 (.returned [])), .inside (.work 4),
        .inside (.conclude (.returned (.ok ()))), .inside (.work 5)] rfl⟩, rfl, rfl⟩
  refine ⟨o, hr, hk, ?_, ?_⟩ <;> rw [hd]
  · simp
  · simp [Deed.failure?, Outcome.result]

end Telemetry.PeriodicReader
