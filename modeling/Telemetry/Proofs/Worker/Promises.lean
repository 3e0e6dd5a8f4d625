import Telemetry.Proofs.Worker.Protocol

/-!
# What callers may rely on

Consequences of the invariants.  All shutdowns of a run end with the same result, and the worker
takes up one of them at most.  Once one of them has returned, the others wait for nothing but the
lock, and whoever has it gives it back.  The lifecycle goes forward by one place at a time.  A flush that
comes after a shutdown has returned is refused, and one that was under way when the worker stopped
learns that the worker was shut down, unless it has given up before.  Nobody is told that the worker
is gone.
-/

namespace Telemetry.Worker.Front

variable {μ : Type} {f f' : Front μ} {j k : CallerId} {r r' : PipelineResult}

theorem Lawful.shutdowns_agree (h : f.Lawful) (hj : f.callers j = some ⟨.shutdown, .done r⟩)
    (hk : f.callers k = some ⟨.shutdown, .done r'⟩) : r = r' := by
  have h₁ := (h.seated j _ hj).verdict r rfl rfl
  have h₂ := (h.seated k _ hk).verdict r' rfl rfl
  rw [h₁] at h₂
  exact Option.some.inj h₂

theorem Lawful.handled_once (h : f.Lawful) :
    (f.handled.filter (·.order.isShutdown)).length ≤ 1 :=
  Nat.le_trans ((List.sublist_append_left _ _).filter _).length_le h.filed.once

/-! ## The lifecycle -/

theorem Lawful.lifecycle_step (h : f.Lawful) (hs : Step f f') :
    f'.desk.lifecycle = f.desk.lifecycle ∨
      f'.desk.lifecycle.rank = f.desk.lifecycle.rank + 1 := by
  cases hs with
  | @attend d d' s s' cs hs q ha =>
      cases ha with
      | take ht => rw [(Desk.take?_eq_some ht).2]; exact .inl rfl
      | @stop k =>
          obtain ⟨q, hq, _, ho⟩ := h.aligned.closing k (.inl rfl)
          have hnr := h.aligned.running.2 (h.filed.underway hq ho)
          have hns : d.lifecycle ≠ .stopped := fun hd => h.aligned.stopped.1 hd
          cases hd : d.lifecycle with
          | running => exact absurd hd hnr
          | draining => exact .inr (by simp [Desk.mark, Lifecycle.rank])
          | stopped => exact absurd hd hns
      | leave => rw [Desk.leave_eq]; exact .inl rfl
      | _ => exact .inl rfl
  | come => exact .inl rfl
  | @call d d' s cs hs k order p p' hk hc =>
      cases hc with
      | mark =>
          have hr : d.lifecycle = .running := by
            have hn := mt h.aligned.running.1 (h.seated.not_underway hk)
            exact Decidable.not_not.1 hn
          simp [Desk.mark, hr, Lifecycle.rank]
      | join hl =>
          have hd : d.lifecycle = .stopped :=
            h.aligned.stopped.2 (by rw [h.aligned.left.1 hl]; exact trivial)
          exact .inl hd.symm
      | _ => exact .inl rfl

theorem Lawful.rank_le (h : f.Lawful) (hs : Steps f f') :
    f.desk.lifecycle.rank ≤ f'.desk.lifecycle.rank := by
  induction hs with
  | refl => exact Nat.le_refl _
  | tail hs step ih =>
      rcases (h.steps hs).lifecycle_step step with he | he
      · exact he ▸ ih
      · omega

theorem Lawful.stays_stopped (h : f.Lawful) (hs : Steps f f')
    (hd : f.desk.lifecycle = .stopped) : f'.desk.lifecycle = .stopped := by
  have := h.rank_le hs
  rw [hd] at this
  cases hd' : f'.desk.lifecycle <;> simp_all [Lifecycle.rank]

/-! ## Calls -/

/-- A call asks for the same thing until it ends. -/
theorem order_step {c : Call μ} (h : f.callers k = some c) (hs : Step f f') :
    ∃ c', f'.callers k = some c' ∧ c'.order = c.order := by
  cases hs with
  | attend => exact ⟨c, h, rfl⟩
  | come hk => exact ⟨c, seat_of_some hk h, rfl⟩
  | @call d d' s cs hs i order p p' hi hc =>
      rcases seat_cases ⟨order, p'⟩ h hi with ⟨_, rfl, hs'⟩ | ⟨_, hs'⟩
      · exact ⟨_, hs', rfl⟩
      · exact ⟨c, hs', rfl⟩

theorem order_steps {c : Call μ} (h : f.callers k = some c) (hs : Steps f f') :
    ∃ c', f'.callers k = some c' ∧ c'.order = c.order := by
  induction hs with
  | refl => exact ⟨c, h, rfl⟩
  | tail _ step ih =>
      obtain ⟨c₁, h₁, ho₁⟩ := ih
      obtain ⟨c₂, h₂, ho₂⟩ := order_step h₁ step
      exact ⟨c₂, h₂, ho₂.trans ho₁⟩

theorem done_step {order : Order μ} (h : f.callers k = some ⟨order, .done r⟩) (hs : Step f f') :
    f'.callers k = some ⟨order, .done r⟩ := by
  cases hs with
  | attend => exact h
  | come hk => exact seat_of_some hk h
  | @call d d' s cs hs i order' p p' hi hc =>
      rcases seat_cases ⟨order', p'⟩ h hi with ⟨_, heq, _⟩ | ⟨_, hs'⟩
      · cases heq
        cases hc
      · exact hs'

theorem done_steps {order : Order μ} (h : f.callers k = some ⟨order, .done r⟩) (hs : Steps f f') :
    f'.callers k = some ⟨order, .done r⟩ := by
  induction hs with
  | refl => exact h
  | tail _ step ih => exact done_step ih step

/-! ## Shutdowns that come after the verdict -/

/-- With a verdict there, a shutdown has the lock only to learn it. -/
theorem Lawful.phase_of_verdict (h : f.Lawful) (hv : f.desk.verdict = some r) {p : Phase μ}
    (hk : f.callers k = some ⟨.shutdown, p⟩) : p = .locking ∨ p = .consulting ∨ p = .done r := by
  have hsits := h.seated k _ hk
  -- whoever is about to send the shutdown, or waits for its end, has found no verdict
  have hn : ¬ (p = .marking ∨ p.Committed) := fun he => by
    have := hsits.engaged he
    rw [hv] at this
    cases this
  cases p with
  | checking m => cases hsits.fits
  | locking => exact .inl rfl
  | consulting => exact .inr (.inl rfl)
  | marking => exact absurd (.inl rfl) hn
  | sending o | waiting o t => exact absurd (.inr hsits.fits) hn
  | joining r' | concluding r' => exact absurd (.inr trivial) hn
  | done r' =>
      have := hsits.verdict r' rfl rfl
      rw [hv] at this
      cases this
      exact .inr (.inr rfl)

/-- With a verdict there, the lock is free or whoever has it will give it back at once. -/
theorem Lawful.lock_of_verdict (h : f.Lawful) (hv : f.desk.verdict = some r) :
    f.desk.lock = none ∨
      ∃ i, f.desk.lock = some i ∧ f.callers i = some ⟨.shutdown, .consulting⟩ := by
  cases hl : f.desk.lock with
  | none => exact .inl rfl
  | some i =>
      obtain ⟨⟨order, p⟩, hi, hh⟩ := h.held i hl
      obtain rfl := (h.seated i _ hi).fits.eq_shutdown hh
      rcases h.phase_of_verdict hv hi with rfl | rfl | rfl
      · exact hh.elim
      · exact .inr ⟨i, rfl, hi⟩
      · exact hh.elim

/-! ## Flushes that come too late -/

/-- How far a flush gets that begins when the worker is running no more. -/
def Refused (f : Front μ) (k : CallerId) : Prop :=
  ∃ m, f.callers k = some ⟨.flush m, .checking m⟩ ∨
    f.callers k = some ⟨.flush m, .done (.error .shutdown)⟩

theorem Refused.step (h : f.Refused k) (hn : f.desk.lifecycle ≠ .running) (hs : Step f f') :
    f'.Refused k := by
  obtain ⟨m, hm | hm⟩ := h
  · cases hs with
    | attend => exact ⟨m, .inl hm⟩
    | come hk => exact ⟨m, .inl (seat_of_some hk hm)⟩
    | @call d d' s cs hs i order p p' hi hc =>
        rcases seat_cases ⟨order, p'⟩ hm hi with ⟨_, heq, hs'⟩ | ⟨_, hs'⟩
        · cases heq
          cases hc with
          | check hr => exact absurd hr hn
          | refuse => exact ⟨m, .inr hs'⟩
        · exact ⟨m, .inl hs'⟩
  · exact ⟨m, .inr (done_step hm hs)⟩

theorem Refused.steps (h : f.Refused k) (hf : f.Lawful) (hn : f.desk.lifecycle ≠ .running)
    (hs : Steps f f') : f'.Refused k ∧ f'.desk.lifecycle ≠ .running := by
  induction hs with
  | refl => exact ⟨h, hn⟩
  | @tail b c hs step ih =>
      refine ⟨ih.1.step ih.2 step, ?_⟩
      have := (hf.steps hs).rank_le (.single step)
      have hb : b.desk.lifecycle ≠ .running := ih.2
      cases hb' : b.desk.lifecycle <;> cases hc : c.desk.lifecycle <;>
        simp_all [Lifecycle.rank]

/-- A shutdown that has returned has stopped the worker from running. -/
theorem Lawful.not_running (h : f.Lawful) (hj : f.callers j = some ⟨.shutdown, .done r⟩) :
    f.desk.lifecycle ≠ .running :=
  h.aligned.running.2 (.inl (by rw [(h.seated j _ hj).verdict r rfl rfl]; simp))

/-! ## Flushes that are left behind -/

/-- A flush that has passed its check and has no answer. -/
def Unanswered (f : Front μ) (k : CallerId) : Prop :=
  ∃ m, f.callers k = some ⟨.flush m, .sending (.flush m)⟩ ∨
    ∃ t, f.callers k = some ⟨.flush m, .waiting (.flush m) t⟩ ∧ ∀ r, f.desk.reply k ≠ .answered r

/-- A flush that has ended without an answer of the worker. -/
def Dismissed (f : Front μ) (k : CallerId) : Prop :=
  ∃ m r, f.callers k = some ⟨.flush m, .done r⟩ ∧ (r = .error .shutdown ∨ r = .error .timeout)

/-- Once the worker has stopped it answers no flush. -/
theorem Lawful.reply_of_stopped (h : f.Lawful) (hd : f.desk.lifecycle = .stopped) {m : μ}
    {p : Phase μ} (hk : f.callers k = some ⟨.flush m, p⟩)
    (hn : ∀ r, f.desk.reply k ≠ .answered r) {d' : Desk μ} {s' : Status} {q : Option (Request μ)}
    (ha : Attends f.desk f.status q d' s') : ∀ r, d'.reply k ≠ .answered r := by
  have hst := h.aligned.stopped.1 hd
  obtain ⟨d, s, cs, hs⟩ := f
  cases ha with
  | elsewhere => exact hn
  | take | answer | stop => exact hst.elim
  | @bow i result =>
      intro r hr
      rw [Desk.reply_answer] at hr
      split at hr
      next heq =>
        obtain ⟨b, hb, hbk, ho⟩ := h.aligned.closing i (.inr rfl)
        obtain ⟨c, hc, hco, _⟩ := h.filed.sent b (List.mem_append_left _ hb)
        rw [hbk, ← heq, hk] at hc
        cases hc
        rw [ho] at hco
        cases hco
      next => exact hn r hr
  | leave =>
      intro r hr
      simp only [Desk.leave_eq] at hr
      split at hr
      next => cases hr
      next => exact hn r hr

/-- What a caller is told that waits and has no answer. -/
theorem Lawful.tells_of_unanswered (h : f.Lawful) (hn : ∀ r, f.desk.reply k ≠ .answered r)
    (ht : f.desk.Tells k r) :
    r = .error .shutdown ∨ r = .error .timeout := by
  rcases ht with rfl | hr | ⟨hr, rfl⟩
  · exact .inr rfl
  · exact absurd hr (hn r)
  · exact .inl (by rw [h.aligned.gone_eq (h.truthful.abandoned k hr)])

theorem Unanswered.step (h : f.Unanswered k) (hf : f.Lawful) (hd : f.desk.lifecycle = .stopped)
    (hs : Step f f') : f'.Unanswered k ∨ f'.Dismissed k := by
  cases hs with
  | attend ha =>
      obtain ⟨m, hm | ⟨t, hm, hn⟩⟩ := h
      · exact .inl ⟨m, .inl hm⟩
      · exact .inl ⟨m, .inr ⟨t, hm, hf.reply_of_stopped hd hm hn ha⟩⟩
  | come hk =>
      obtain ⟨m, hm | ⟨t, hm, hn⟩⟩ := h
      · exact .inl ⟨m, .inl (seat_of_some hk hm)⟩
      · exact .inl ⟨m, .inr ⟨t, seat_of_some hk hm, hn⟩⟩
  | @call d d' s cs hs i order p p' hi hc =>
      obtain ⟨m, hm | ⟨t, hm, hn⟩⟩ := h
      · rcases seat_cases ⟨order, p'⟩ hm hi with ⟨rfl, heq, hs'⟩ | ⟨hne, hs'⟩
        · -- the flush sends its request, or finds that the worker has left
          cases heq
          cases hc with
          | @send _ t =>
              refine .inl ⟨m, .inr ⟨_, hs', fun r hr => ?_⟩⟩
              rw [Desk.reply_received, if_pos rfl] at hr
              cases hr
          | sendOnly => exact .inr ⟨m, _, hs', .inr rfl⟩
          | fail hl => exact .inr ⟨m, _, hs', .inl (congrArg _ (hf.aligned.gone_eq hl))⟩
        · exact .inl ⟨m, .inl hs'⟩
      · rcases seat_cases ⟨order, p'⟩ hm hi with ⟨rfl, heq, hs'⟩ | ⟨hne, hs'⟩
        · cases heq
          cases hc with
          | hear ht => exact .inr ⟨m, _, hs', hf.tells_of_unanswered hn ht⟩
        · exact .inl ⟨m, .inr ⟨t, hs', fun r hr => hn r (hc.reply_of_ne hne ▸ hr)⟩⟩

/-- A flush that the worker has not answered when it stops ends without an answer, if it ends. -/
theorem Unanswered.steps (h : f.Unanswered k) (hf : f.Lawful) (hd : f.desk.lifecycle = .stopped)
    (hs : Steps f f') : f'.Unanswered k ∨ f'.Dismissed k := by
  induction hs with
  | refl => exact .inl h
  | tail hs step ih =>
      rcases ih with ih | ⟨m, r, hr, he⟩
      · exact ih.step (hf.steps hs) (hf.stays_stopped hs hd) step
      · exact .inr ⟨m, r, done_step hr step, he⟩

/-- Once the worker has left such a flush waits no more. -/
theorem Unanswered.turned_away (h : f.Unanswered k) (hf : f.Lawful) (hl : f.desk.hasLeft = true) :
    ∃ m p, f.callers k = some ⟨.flush m, p⟩ ∧ ∀ timeout now,
      p.step? f.desk k timeout now = some (f.desk, .done (.error .shutdown)) := by
  have hgone := hf.aligned.gone_eq hl
  obtain ⟨m, hm | ⟨t, hm, hn⟩⟩ := h
  · refine ⟨m, _, hm, fun timeout now => ?_⟩
    simp [Phase.step?, Desk.send?, hl, hgone, Phase.after]
  · refine ⟨m, _, hm, fun timeout now => ?_⟩
    cases hr : f.desk.reply k with
    | pending =>
        -- its request would lie in the inbox or in the worker's hands
        rcases hf.awaited k _ _ t hm hr with hin | ho
        · rw [hf.cleared hl] at hin
          cases hin
        · rw [hf.aligned.left.1 hl] at ho
          exact ho.elim
    | answered r => exact absurd hr (hn r)
    | abandoned => simp [Phase.step?, hr, hgone, Phase.after]

/-- A flush that is refused waits for nothing. -/
theorem Refused.turned_away (h : f.Refused k) (hn : f.desk.lifecycle ≠ .running) :
    ∃ m p, f.callers k = some ⟨.flush m, p⟩ ∧ (p = .done (.error .shutdown) ∨ ∀ timeout now,
      p.step? f.desk k timeout now = some (f.desk, .done (.error .shutdown))) := by
  obtain ⟨m, hm | hm⟩ := h
  · exact ⟨m, _, hm, .inr fun timeout now => by simp [Phase.step?, hn]⟩
  · exact ⟨m, _, hm, .inl rfl⟩

end Telemetry.Worker.Front
