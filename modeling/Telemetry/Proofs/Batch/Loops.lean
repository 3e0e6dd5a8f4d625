import Mathlib.Algebra.Order.Floor.Div
import Telemetry.Proofs.Batch.Flush
import Telemetry.Proofs.Batch.Unending

/-!
# Flushes and shutdowns end under any load

Flushes, shutdowns and passes for full batches are loops of the same kind: the worker tests whether to go
on, hands a batch to the exporter, and comes back to the test when the export has ended.  Meanwhile
producers may put more records into the queue than the worker takes out, so that the length of the queue
measures nothing.

* What a flush has before it is the distance from the number of records that were handed out to its
  target, which was noted before.  No producer changes it, and the queue holds all records up to the
  target, so every batch is as large as it may be (`Unending.flush_tests`).
* A shutdown has no target.  It ends with the first test that finds the deadline passed or the queue
  empty, and no record is accepted from then on.

What `share` says of a test is all that a loop depends on, and `Unending.round` is one turn of any of
them.  A pass has neither a target nor a deadline; what can be said of passes is in `Batch.Passes`.
-/

namespace Telemetry.Batch

open Worker (CallerId Desk Request Staffed Office)

variable {ρ : Type} {p : Processor ρ} {now : ℕ} {next : Resumption}

/-! ## Tests -/

/-- How many records the worker takes after the test of a loop.  The loop ends if there are none. -/
def share (p : Processor ρ) (now : ℕ) : Resumption → ℕ
  | .passing => if p.queue.size < p.config.maxBatchSize then 0 else p.config.maxBatchSize
  | .flushing _ target deadline _ =>
    if deadline ≤ now then 0 else min (min p.config.maxBatchSize p.queue.size) (target - p.queue.popped)
  | .draining _ deadline _ => if deadline ≤ now then 0 else min p.config.maxBatchSize p.queue.size

/-- The worker hands so many records to the exporter. -/
def handing (p : Processor ρ) (n : ℕ) (next : Resumption) : Processor ρ :=
  { p with queue := (p.queue.handOut n).1, activity := .exporting (p.queue.handOut n).2 next }

theorem share_le_size (p : Processor ρ) (now : ℕ) (next : Resumption) : share p now next ≤ p.queue.size := by
  cases next <;> simp only [share] <;> split <;> omega

theorem hand_handOut {n : ℕ} (hn : n ≤ p.queue.size) (otherwise : Processor ρ) :
    p.hand (p.queue.handOut n) next otherwise = if n = 0 then otherwise else handing p n next := by
  have hlength := length_handOut hn
  unfold Processor.hand
  by_cases h0 : n = 0
  · subst h0
    rfl
  · rw [if_neg h0, if_neg]
    · rfl
    · rw [List.isEmpty_iff_length_eq_zero, hlength]
      exact h0

/-- A test that finds something to do is followed by an export. -/
theorem advance?_of_share (ha : p.activity = .going next) (hs : share p now next ≠ 0) :
    p.advance? now = some (handing p (share p now next) next, []) := by
  have hle := share_le_size p now next
  cases next with
  | passing =>
      have hfull : ¬ p.queue.size < p.config.maxBatchSize := fun hlt => hs (if_pos hlt)
      rw [share, if_neg hfull] at hle ⊢
      simp only [Processor.advance?, ha, Processor.pass, if_neg hfull, BoundedQueue.popBatch, Nat.min_eq_left hle]
      rfl
  | flushing k target deadline result =>
      have hd : ¬ deadline ≤ now := fun hle => hs (if_pos hle)
      rw [share, if_neg hd] at hs hle ⊢
      simp only [Processor.advance?, ha, Processor.flushStep, if_neg hd, BoundedQueue.popUntil]
      rw [hand_handOut hle, if_neg hs]
  | draining k deadline result =>
      have hd : ¬ deadline ≤ now := fun hle => hs (if_pos hle)
      rw [share, if_neg hd] at hs hle ⊢
      simp only [Processor.advance?, ha, Processor.drainStep, if_neg hd, BoundedQueue.popBatch]
      rw [hand_handOut hle, if_neg hs]

theorem deeds_of_share (ha : p.activity = .going next) (hs : share p now next ≠ 0) :
    Batch.deeds p now none (handing p (share p now next) next) =
      [.began (.deliver (p.queue.handOut (share p now next)).2)] := by
  cases next with
  | passing => simp [Batch.deeds, ha, handing, Processor.call?]
  | flushing k target deadline result | draining k deadline result =>
      have hd : ¬ deadline ≤ now := fun hle => hs (if_pos hle)
      simp [Batch.deeds, ha, hd, handing, Processor.call?]

/-- The queue knows how many records wait. -/
theorem popped_add_size {o : Office (Account ρ) ℕ} (h : o.Reachable) :
    o.machine.processor.queue.popped + o.machine.processor.queue.size = o.machine.processor.queue.pushed := by
  have hb := (orderly_of_reachable h).balanced
  rw [hb.pushed, ← hb.conserved, hb.popped, BoundedQueue.size]
  simp only [List.length_append]

/-! ## One turn -/

variable {o : ℕ → Office (Account ρ) ℕ} {e : ℕ → Option (Office.Event (Event ρ))} {i : ℕ}

/-- From one test of a loop to the next one, with an export between them. -/
structure Round (o : ℕ → Office (Account ρ) ℕ) (i : ℕ) (next : Resumption) (x : Export ρ) (l : ℕ) : Prop where
  later : i < l
  activity : (o l).machine.processor.activity = .going (next.noting (x.outcome.result "export"))
  config : (o l).machine.processor.config = (o i).machine.processor.config
  deeds : (o l).machine.deeds = (o i).machine.deeds ++ report [x]
  popped : (o l).machine.processor.queue.popped = (o i).machine.processor.queue.popped + x.batch.length
  pushed : (o i).machine.processor.queue.pushed ≤ (o l).machine.processor.queue.pushed

/-- The worker comes to a test, and if it finds something to do it comes back after an export. -/
theorem Unending.round (h : Unending o e) (hi : (o i).machine.processor.activity = .going next) :
    ∃ j now, i ≤ j ∧ e j = some (.inside (.work now)) ∧ Beside (o i).machine (o j).machine ∧
      (share (o j).machine.processor now next ≠ 0 → ∃ x l, j < l ∧ Round o i next x l ∧
        x.batch.length = share (o j).machine.processor now next) := by
  obtain ⟨j, now, hij, hj, hb⟩ := h.works hi
  refine ⟨j, now, hij, hj, hb, fun hs => ?_⟩
  have ha := hb.activity.trans hi
  have htest := Unending.machine_work h.toRuns hj ha (advance?_of_share ha hs)
  rw [deeds_of_share ha hs] at htest
  generalize hn : share (o j).machine.processor now next = n at htest
  have hlength : ((o j).machine.processor.queue.handOut n).2.length = n :=
    length_handOut (hn ▸ share_le_size ..)
  obtain ⟨m, out, hjm, hbm, hend⟩ := h.concludes (i := j + 1) (c := .deliver _) (by rw [htest]; rfl)
  rw [htest] at hbm
  have ham : (o m).machine.processor.activity =
      .exporting ((o j).machine.processor.queue.handOut n).2 next := hbm.activity
  have hback : ((o m).machine.processor.returned out).1 = { (o m).machine.processor with
      activity := .going (next.noting (out.result "export")) } := by
    simp only [Processor.returned, ham]
  rw [hback] at hend
  refine ⟨⟨((o j).machine.processor.queue.handOut n).2, out⟩, m + 1, by omega, ?_, hlength⟩
  constructor
  · omega
  · rw [hend]; rfl
  · rw [hend]; exact hbm.config.trans hb.config
  · rw [hend, ← hb.deeds]
    exact (congrArg (· ++ _) hbm.deeds).trans (List.append_assoc ..)
  · rw [hend, ← hb.popped, hlength]; exact hbm.popped
  · rw [hend]; exact Nat.le_trans hb.pushed hbm.pushed

/-! ## Flushes -/

/-- A batch of the largest size that is possible takes one from the number of batches. -/
theorem ceilDiv_sub_min {d m : ℕ} (hd : 0 < d) (hm : 0 < m) : (d - min m d) ⌈/⌉ m + 1 = d ⌈/⌉ m := by
  simp only [Nat.ceilDiv_eq_add_pred_div]
  rw [← Nat.add_div_right _ hm]
  by_cases hle : d ≤ m
  · rw [Nat.min_eq_right hle, Nat.sub_self, Nat.div_eq_of_lt_le (k := 1) (by omega) (by omega),
      Nat.div_eq_of_lt_le (k := 1) (by omega) (by omega)]
  · congr 1
    omega

/-- No flush is about records that are yet to come. -/
theorem target_le_pushed {o : Office (Account ρ) ℕ} (h : o.Reachable) {k : CallerId} {target deadline : ℕ}
    {result : PipelineResult}
    (ha : o.machine.processor.activity = .going (.flushing k target deadline result)) :
    target ≤ o.machine.processor.queue.pushed := by
  have hf := flushing_of_reachable h
  rw [ha] at hf
  obtain ⟨before, xs, hf, -, -⟩ := hf
  have ho := orderly_of_reachable h
  obtain ⟨⟨_, phase⟩, hc, hco⟩ := ho.caller h.lawful hf.request
  obtain rfl := hco
  exact ho.posted.marks _ _ _ hc

/-- The records up to the target of a flush are in the queue or were handed out, so that a test takes as
many of them as a batch holds. -/
theorem share_flushing {o : Office (Account ρ) ℕ} (h : o.Reachable) {k : CallerId} {target deadline : ℕ}
    {result : PipelineResult}
    (ha : o.machine.processor.activity = .going (.flushing k target deadline result)) (hd : now < deadline) :
    share o.machine.processor now (.flushing k target deadline result) =
      min o.machine.processor.config.maxBatchSize (target - o.machine.processor.queue.popped) := by
  have htarget := target_le_pushed h ha
  have hsize := popped_add_size h
  rw [share, if_neg (Nat.not_le.2 hd)]
  omega

theorem Beside.deeds_report_nil {a b : Account ρ} (h : Beside a b) : b.deeds = a.deeds ++ report [] :=
  h.deeds.trans (List.append_nil _).symm

section Flush

variable {k : CallerId} {target deadline : ℕ}

/-- The tests of a flush come to one that is the last, after as many exports as the way to the target
takes. -/
theorem Unending.flush_tests (h : Unending o e) (n : ℕ) {i : ℕ} {result : PipelineResult}
    (hi : (o i).machine.processor.activity = .going (.flushing k target deadline result))
    (hn : (target - (o i).machine.processor.queue.popped) ⌈/⌉ (o i).machine.processor.config.maxBatchSize = n) :
    ∃ j now xs result', i ≤ j ∧ e j = some (.inside (.work now)) ∧
      (o j).machine.processor.activity = .going (.flushing k target deadline result') ∧
      (o j).machine.deeds = (o i).machine.deeds ++ report xs ∧
      (deadline ≤ now ∧ xs.length ≤ n ∨
        now < deadline ∧ xs.length = n ∧ target ≤ (o j).machine.processor.queue.popped) := by
  induction n generalizing i result with
  | zero =>
      obtain ⟨j, now, hij, hj, hb, -⟩ := h.round hi
      have hpos := (h.reachable_at i).sound.valid.batch_pos
      have hreached := le_smul_ceilDiv (b := target - (o i).machine.processor.queue.popped) hpos
      rw [hn, smul_zero] at hreached
      have hp := hb.popped
      refine ⟨j, now, [], result, hij, hj, hb.activity.trans hi, hb.deeds_report_nil, ?_⟩
      rcases Nat.lt_or_ge now deadline with hlt | hle
      · exact .inr ⟨hlt, rfl, by omega⟩
      · exact .inl ⟨hle, Nat.le_refl 0⟩
  | succ n ih =>
      obtain ⟨j, now, hij, hj, hb, hround⟩ := h.round hi
      have ha := hb.activity.trans hi
      rcases Nat.lt_or_ge now deadline with hlt | hle
      · have hpos : 0 < (o i).machine.processor.config.maxBatchSize :=
          (h.reachable_at i).sound.valid.batch_pos
        have hd : 0 < target - (o i).machine.processor.queue.popped := by
          refine Nat.pos_of_ne_zero fun h0 => ?_
          rw [h0, zero_ceilDiv] at hn
          cases hn
        rw [share_flushing (h.reachable_at j) ha hlt, hb.config, hb.popped] at hround
        obtain ⟨x, l, hjl, hr, hlength⟩ := hround (by omega)
        have hrest : (target - (o l).machine.processor.queue.popped) ⌈/⌉
            (o l).machine.processor.config.maxBatchSize = n := by
          have hless := ceilDiv_sub_min hd hpos
          rw [hr.popped, hlength, hr.config, Nat.sub_add_eq]
          omega
        obtain ⟨m, now', xs, result', hlm, hm, ham, hdeeds, hend⟩ := ih hr.activity hrest
        refine ⟨m, now', x :: xs, result', by omega, hm, ham, ?_, ?_⟩
        · rw [hdeeds, hr.deeds, List.append_assoc]
          rfl
        · simp only [List.length_cons]
          omega
      · exact ⟨j, now, [], result, hij, hj, ha, hb.deeds_report_nil, .inl ⟨hle, Nat.zero_le _⟩⟩

/-- How a flush ends that is under way at some moment of a run. -/
inductive FlushRun (o : ℕ → Office (Account ρ) ℕ) (e : ℕ → Option (Office.Event (Event ρ))) (i : ℕ)
    (k : CallerId) (target deadline : ℕ) : Prop where
  /-- After as many exports as it takes from the number of records that were handed out to the target,
  and after the flush of the exporter. -/
  | inTime (l : ℕ) (xs : List (Export ρ)) (out : Outcome ExportResult) (result : PipelineResult) :
    i ≤ l → (o l).machine.processor.activity = .answering k result false →
    (o l).machine.deeds = (o i).machine.deeds ++ (report xs ++ [.began .flush, .ended .flush out]) →
    xs.length =
      (target - (o i).machine.processor.queue.popped) ⌈/⌉ (o i).machine.processor.config.maxBatchSize →
    FlushRun o e i k target deadline
  /-- With a test that finds the deadline passed, after no more exports than that. -/
  | late (j l now : ℕ) (xs : List (Export ρ)) :
    i ≤ j → e j = some (.inside (.work now)) → deadline ≤ now →
    j ≤ l → (o l).machine.processor.activity = .answering k (.error .timeout) false →
    (o l).machine.deeds = (o i).machine.deeds ++ (report xs ++ [.late []]) →
    xs.length ≤
      (target - (o i).machine.processor.queue.popped) ⌈/⌉ (o i).machine.processor.config.maxBatchSize →
    FlushRun o e i k target deadline

theorem Unending.flush_ends (h : Unending o e) {result : PipelineResult}
    (hi : (o i).machine.processor.activity = .going (.flushing k target deadline result)) :
    FlushRun o e i k target deadline := by
  obtain ⟨j, now, xs, result', hij, hj, ha, hdeeds, hend⟩ := h.flush_tests _ hi rfl
  rcases hend with ⟨hle, hxs⟩ | ⟨hlt, hxs, hreached⟩
  · have hlate : (o j).machine.processor.advance? now = some
        ({ (o j).machine.processor with activity := .answering k (.error .timeout) false }, []) := by
      simp only [Processor.advance?, ha, Processor.flushStep, if_pos hle]
    have htest := Unending.machine_work h.toRuns hj ha hlate
    refine .late j (j + 1) now xs hij hj hle (Nat.le_succ j) (by rw [htest]; rfl) ?_ hxs
    rw [htest, Account.noting, hdeeds, List.append_assoc]
    simp [Batch.deeds, ha, hle, Processor.call?]
  · have hnone : share (o j).machine.processor now (.flushing k target deadline result') = 0 := by
      rw [share_flushing (h.reachable_at j) ha hlt]
      omega
    have hflush : (o j).machine.processor.advance? now = some
        ({ (o j).machine.processor with activity := .flushingExporter k result' }, []) := by
      rw [share, if_neg (Nat.not_le.2 hlt)] at hnone
      simp only [Processor.advance?, ha, Processor.flushStep, if_neg (Nat.not_le.2 hlt),
        BoundedQueue.popUntil, hnone]
      rfl
    have htest := Unending.machine_work h.toRuns hj ha hflush
    obtain ⟨m, out, hjm, hbm, hend⟩ := h.concludes (i := j + 1) (c := .flush) (by rw [htest]; rfl)
    have ham : (o m).machine.processor.activity = .flushingExporter k result' := by
      rw [hbm.activity, htest]
      rfl
    refine .inTime (m + 1) xs out (result'.and (out.result "flush").lift) (by omega) ?_ ?_ hxs
    · rw [hend]
      simp only [Account.noting, Processor.returned, ham]
    · rw [hend, Account.noting, hbm.deeds, htest, Account.noting, hdeeds]
      simp [Batch.deeds, ha, Nat.not_le.2 hlt, Processor.call?]

end Flush

/-! ## Shutdowns -/

theorem Works.hasDrained {q : Processor ρ} {ds : List (Deed ρ)} (h : p.activity.HasDrained)
    (hw : Works p ds q) : q.activity.HasDrained ∧ ds.filterMap Deed.batch? = [] := by
  cases hw with
  | closed | stop | bow | leave => exact ⟨trivial, rfl⟩
  | hand hr => rcases hr with ⟨hi, -⟩ | hi <;> rw [hi] at h <;> exact h.elim
  | take hi | report hi | tick hi | exported hi | rest hi | flushLate hi | flush hi | flushed hi
  | drainLate hi | drained hi | answer hi => rw [hi] at h; exact h.elim

/-- A worker that has asked the exporter to shut down hands it no more batches. -/
theorem Unending.hasDrained (h : Unending o e) {j l : ℕ} (hjl : j ≤ l)
    (hd : (o j).machine.processor.activity.HasDrained) :
    (o l).machine.processor.activity.HasDrained ∧ (o l).machine.handed = (o j).machine.handed := by
  induction l, hjl using Nat.le_induction with
  | base => exact ⟨hd, rfl⟩
  | succ l hjl ih =>
      by_cases hs : Stirs e l
      · obtain ⟨x, hx, -⟩ := hs
        obtain ⟨r, hp⟩ := Unending.perform?_inside (h.goes l _ hx)
        generalize (o (l + 1)).machine = b at hp ⊢
        cases Account.Moves.of_perform? hp (h.reachable_at l).sound with
        | @offer y =>
            rcases (o l).machine.offer_cases y with he | ⟨_, _, s, _, he⟩ <;> rw [he] <;> exact ih
        | @settle _ s => cases s <;> exact ih
        | works hw =>
            obtain ⟨hdrained, hnone⟩ := hw.hasDrained ih.1
            exact ⟨hdrained, by rw [handed_noting, hnone, List.append_nil, ih.2]⟩
      · have hb := h.beside_succ hs
        rw [hb.activity, Account.handed, hb.deeds]
        exact ih

section Drain

variable {k : CallerId} {deadline : ℕ}

/-- The worker tests at a moment whether its shutdown goes on. -/
structure DrainTest (o : ℕ → Office (Account ρ) ℕ) (e : ℕ → Option (Office.Event (Event ρ))) (k : CallerId)
    (deadline j now : ℕ) : Prop where
  event : e j = some (.inside (.work now))
  activity : ∃ result, (o j).machine.processor.activity = .going (.draining k deadline result)

/-- What such a test ends the drain for. -/
def Exhausted (p : Processor ρ) (deadline now : ℕ) : Prop := deadline ≤ now ∨ p.queue.items = []

/-- A drain comes to its last test. -/
def DrainEnds (o : ℕ → Office (Account ρ) ℕ) (e : ℕ → Option (Office.Event (Event ρ))) (i : ℕ)
    (k : CallerId) (deadline : ℕ) : Prop :=
  ∃ j now, i ≤ j ∧ DrainTest o e k deadline j now ∧ Exhausted (o j).machine.processor deadline now

/-- How a shutdown goes on whose drain is under way at some moment of a run. -/
structure DrainRun (o : ℕ → Office (Account ρ) ℕ) (e : ℕ → Option (Office.Event (Event ρ))) (i : ℕ)
    (k : CallerId) (deadline : ℕ) : Prop where
  /-- A test that finds the deadline passed or the queue empty is the last one.  The queue is closed with
  it, and nothing is exported any more. -/
  last : ∀ j now, DrainTest o e k deadline j now → Exhausted (o j).machine.processor deadline now →
    (∃ timeout result, (o (j + 1)).machine.processor.activity = .closingExporter k timeout result) ∧
      (o (j + 1)).machine.processor.queue.closed = true ∧ (o (j + 1)).machine.processor.queue.items = [] ∧
      ∀ l, j ≤ l → (o l).machine.handed = (o j).machine.handed
  /-- Any other test is followed by an export. -/
  next : ∀ j now, DrainTest o e k deadline j now → ¬ Exhausted (o j).machine.processor deadline now →
    ∃ batch result, batch ≠ [] ∧
      (o (j + 1)).machine.processor.activity = .exporting batch (.draining k deadline result)
  /-- There are tests until one is the last. -/
  onward : DrainEnds o e i k deadline ∨
    ∀ n, ∃ j now, n ≤ j ∧ DrainTest o e k deadline j now ∧ ¬ Exhausted (o j).machine.processor deadline now
  /-- One is, if the clock gets past the deadline. -/
  timely : (∃ n, ∀ j now, n ≤ j → e j = some (.inside (.work now)) → deadline ≤ now) →
    DrainEnds o e i k deadline

theorem share_draining_eq_zero_iff (hpos : 0 < p.config.maxBatchSize) (k : CallerId)
    (result : PipelineResult) :
    share p now (.draining k deadline result) = 0 ↔ Exhausted p deadline now := by
  rw [share, Exhausted, ← List.length_eq_zero_iff, ← BoundedQueue.size]
  split
  next hd => exact iff_of_true rfl (.inl hd)
  next hd => rw [or_iff_right hd]; omega

/-- What such a test does depends little on why the drain ends. -/
theorem advance?_of_exhausted (hpos : 0 < p.config.maxBatchSize) {result : PipelineResult}
    (ha : p.activity = .going (.draining k deadline result)) (hx : Exhausted p deadline now) :
    ∃ q logs timeout result', p.advance? now = some (q, logs) ∧ q.queue = p.queue.close.1 ∧
      q.activity = .closingExporter k timeout result' ∧
      (Batch.deeds p now none q).filterMap Deed.batch? = [] := by
  by_cases hd : deadline ≤ now
  · simp only [Processor.advance?, ha, Processor.drainStep, if_pos hd]
    exact ⟨_, _, _, _, rfl, rfl, rfl, by simp [Batch.deeds, ha, hd, Processor.call?, Deed.batch?]⟩
  · have hnone := (share_draining_eq_zero_iff hpos k result).2 hx
    rw [share, if_neg hd] at hnone
    simp only [Processor.advance?, ha, Processor.drainStep, if_neg hd, BoundedQueue.popBatch, hnone]
    exact ⟨_, _, _, _, rfl, rfl, rfl, by simp [Batch.deeds, ha, hd, Processor.call?, Deed.batch?,
      Processor.hand, BoundedQueue.handOut]⟩

theorem Unending.drain_last (h : Unending o e) {j : ℕ} (ht : DrainTest o e k deadline j now)
    (hx : Exhausted (o j).machine.processor deadline now) :
    (∃ timeout result, (o (j + 1)).machine.processor.activity = .closingExporter k timeout result) ∧
      (o (j + 1)).machine.processor.queue.closed = true ∧ (o (j + 1)).machine.processor.queue.items = [] ∧
      ∀ l, j ≤ l → (o l).machine.handed = (o j).machine.handed := by
  obtain ⟨result, ha⟩ := ht.activity
  have hpos := (h.reachable_at j).sound.valid.batch_pos
  obtain ⟨q, logs, timeout, result', hq, hqueue, hqa, hnone⟩ := advance?_of_exhausted hpos ha hx
  have htest := Unending.machine_work h.toRuns ht.event ha hq
  have hdrained : (o (j + 1)).machine.processor.activity.HasDrained := by
    rw [htest, Account.noting, hqa]
    trivial
  have hsame : (o (j + 1)).machine.handed = (o j).machine.handed := by
    rw [htest, handed_noting, hnone, List.append_nil]
  refine ⟨⟨timeout, result', by rw [htest]; exact hqa⟩, by rw [htest, Account.noting, hqueue]; rfl,
    by rw [htest, Account.noting, hqueue]; rfl, fun l hl => ?_⟩
  rcases Nat.eq_or_lt_of_le hl with rfl | hlt
  · rfl
  · exact (h.hasDrained hlt hdrained).2.trans hsame

theorem Unending.drain_next (h : Unending o e) {j : ℕ} (ht : DrainTest o e k deadline j now)
    (hx : ¬ Exhausted (o j).machine.processor deadline now) :
    ∃ batch result, batch ≠ [] ∧
      (o (j + 1)).machine.processor.activity = .exporting batch (.draining k deadline result) := by
  obtain ⟨result, ha⟩ := ht.activity
  have hpos := (h.reachable_at j).sound.valid.batch_pos
  have hs := mt (share_draining_eq_zero_iff hpos k result).1 hx
  have htest := Unending.machine_work h.toRuns ht.event ha (advance?_of_share ha hs)
  refine ⟨_, result, fun hnil => hs ?_, by rw [htest]; rfl⟩
  rw [← length_handOut (share_le_size _ now _), hnil]
  rfl

/-- The drain comes to one test after the other until one is the last. -/
theorem Unending.drain_tests (h : Unending o e) {result : PipelineResult}
    (hi : (o i).machine.processor.activity = .going (.draining k deadline result))
    (hnever : ¬ DrainEnds o e i k deadline) (n : ℕ) :
    ∃ j now, n ≤ j ∧ DrainTest o e k deadline j now ∧ ¬ Exhausted (o j).machine.processor deadline now := by
  have hmore (j now : ℕ) (hij : i ≤ j) (ht : DrainTest o e k deadline j now) :
      ¬ Exhausted (o j).machine.processor deadline now :=
    fun hx => hnever ⟨j, now, hij, ht, hx⟩
  have hgoes : ∃ l result', i + n ≤ l ∧
      (o l).machine.processor.activity = .going (.draining k deadline result') := by
    induction n with
    | zero => exact ⟨i, result, Nat.le_refl i, hi⟩
    | succ n ih =>
        obtain ⟨l, result', hil, hl⟩ := ih
        obtain ⟨j, now, hlj, hj, hb, hround⟩ := h.round hl
        have hpos := (h.reachable_at j).sound.valid.batch_pos
        have hs := mt (share_draining_eq_zero_iff hpos k result').1
          (hmore j now (by omega) ⟨hj, result', hb.activity.trans hl⟩)
        obtain ⟨x, m, hjm, hr, -⟩ := hround hs
        exact ⟨m, _, by omega, hr.activity⟩
  obtain ⟨l, result', hil, hl⟩ := hgoes
  obtain ⟨j, now, hlj, hj, hb, -⟩ := h.round hl
  have ht : DrainTest o e k deadline j now := ⟨hj, result', hb.activity.trans hl⟩
  exact ⟨j, now, by omega, ht, hmore j now (by omega) ht⟩

theorem Unending.drain_ends (h : Unending o e) {result : PipelineResult}
    (hi : (o i).machine.processor.activity = .going (.draining k deadline result)) :
    DrainRun o e i k deadline := by
  have honward := or_iff_not_imp_left.2 (h.drain_tests hi)
  refine ⟨fun j now => h.drain_last, fun j now => h.drain_next, honward, ?_⟩
  rintro ⟨n, hn⟩
  refine honward.resolve_right fun hall => ?_
  obtain ⟨j, now, hnj, ht, hx⟩ := hall n
  exact hx (.inl (hn j now hnj ht.event))

end Drain

/-- In every run, whatever producers do. -/
theorem loops_end_under_load (h : Unending o e) (i : ℕ) (k : CallerId) (deadline : ℕ) (result : PipelineResult) :
    (∀ target, (o i).machine.processor.activity = .going (.flushing k target deadline result) →
      FlushRun o e i k target deadline) ∧
    ((o i).machine.processor.activity = .going (.draining k deadline result) → DrainRun o e i k deadline) :=
  ⟨fun _ hi => h.flush_ends hi, fun hi => h.drain_ends hi⟩

/-- Three records come before a flush with batches of two, and two while it exports.  A shutdown drains
these, and one more that comes in between. -/
def latecomers : List (Office.Event (Event ℕ)) :=
  [.inside (.offer 1), .inside (.offer 2), .inside (.offer 3), .flush 7, .step 7 5 0, .step 7 5 0,
    .inside (.wake .control 1), .inside (.work 1), .inside (.offer 4), .inside (.offer 5),
    .inside (.conclude (.returned (.ok ()))), .inside (.work 1),
    .inside (.conclude (.returned (.ok ()))), .inside (.work 1),
    .inside (.conclude (.returned (.ok ()))), .inside (.work 1),
    .shutdown 8, .step 8 5 1, .step 8 5 1, .step 8 5 1, .step 8 5 1, .inside (.wake .control 2),
    .inside (.work 2), .inside (.offer 6), .inside (.conclude (.returned (.ok ()))), .inside (.work 2),
    .inside (.conclude (.returned (.ok ()))), .inside (.work 2),
    .inside (.conclude (.returned (.ok ()))), .inside (.work 2), .inside (.work 2), .inside (.work 2)]

/-- The run of a processor in which they happen. -/
def latecomersDay : ℕ → Office (Account ℕ) ℕ :=
  played (fun i _ => latecomers[i]?) (.opened (.opened (.start ⟨4, 0, 2, 5⟩ 0)))

theorem loops_end_under_load_of_latecomers :
    ∃ e, Unending latecomersDay e ∧
      (latecomersDay 7).machine.processor.activity = .going (.flushing 7 3 5 (.ok ())) ∧
      (latecomersDay 7).machine.processor.queue.items = [1, 2, 3] ∧
      (latecomersDay 10).machine.processor.queue.items = [3, 4, 5] ∧
      FlushRun latecomersDay e 7 7 3 5 ∧
      (latecomersDay 22).machine.processor.activity = .going (.draining 8 6 (.ok ())) ∧
      (latecomersDay 22).machine.processor.queue.items = [4, 5] ∧
      (latecomersDay 24).machine.processor.queue.items = [6] ∧
      DrainRun latecomersDay e 22 8 6 := by
  obtain ⟨e, h⟩ : ∃ e, Unending latecomersDay e := by
    refine ⟨_, unending_of_run? latecomers ⟨_, ⟨⟨4, 0, 2, 5⟩, 0, _, rfl, rfl⟩, .refl⟩ ⟨_, rfl, ?_⟩⟩
    exact id
  have at7 : latecomersDay 7 = _ := played_of_run? latecomers 7 (by decide) rfl
  have at10 : latecomersDay 10 = _ := played_of_run? latecomers 10 (by decide) rfl
  have at22 : latecomersDay 22 = _ := played_of_run? latecomers 22 (by decide) rfl
  have at24 : latecomersDay 24 = _ := played_of_run? latecomers 24 (by decide) rfl
  have hflush : (latecomersDay 7).machine.processor.activity = .going (.flushing 7 3 5 (.ok ())) := by
    rw [at7]
    rfl
  have hdrain : (latecomersDay 22).machine.processor.activity = .going (.draining 8 6 (.ok ())) := by
    rw [at22]
    rfl
  exact ⟨_, h, hflush, by rw [at7]; rfl, by rw [at10]; rfl, (loops_end_under_load h 7 7 5 (.ok ())).1 3 hflush,
    hdrain, by rw [at22]; rfl, by rw [at24]; rfl, (loops_end_under_load h 22 8 6 (.ok ())).2 hdrain⟩

end Telemetry.Batch
