import Telemetry.Proofs.Worker.Front

/-!
# What holds before every worker

Invariants of a front, each kept by every step.  `Seated` is about callers and the lock: only
the caller that has the lock gets past the verdict, so there is one of them at a time.  `Held` is
the other way round: the lock is never left with a caller that does not give it back.  `Filed` is
about requests: each belongs to a caller that sends no other one, and at most one of them is a
shutdown.  `Aligned` ties the lifecycle to the status of the worker and to the shutdown that is
under way.  `Truthful` is about results: a caller is told that the worker is gone only after the
worker has noted that it has stopped, and then the caller is told something else.
-/

namespace Telemetry.Worker

variable {μ : Type}

/-! ## Frames of the steps -/

theorem Desk.take?_eq_some {d d' : Desk μ} {r : Request μ} (h : d.take? = some (r, d')) :
    d.inbox = r :: d'.inbox ∧ d' = { d with inbox := d'.inbox } := by
  unfold take? at h
  split at h
  next => cases h
  next q rest hi => cases h; exact ⟨hi, rfl⟩

/-- What dropping requests changes: the places for their answers, and nothing else. -/
theorem Desk.foldl_fill (rs : List (Request μ)) (d : Desk μ) :
    rs.foldl (fun d r => d.fill r.caller .abandoned) d =
      { d with reply := fun k => if k ∈ rs.map (·.caller) then .abandoned else d.reply k } := by
  induction rs generalizing d with
  | nil => simp
  | cons r rs ih =>
      rw [List.foldl_cons, ih]
      simp only [fill, List.map_cons, List.mem_cons]
      congr 1
      funext k
      by_cases hk : k = r.caller <;> by_cases hm : k ∈ rs.map (·.caller) <;> simp [hk, hm]

theorem Desk.leave_eq (d : Desk μ) :
    d.leave = { d with
      reply := fun k => if k ∈ d.inbox.map (·.caller) then .abandoned else d.reply k
      inbox := [], hasLeft := true } := by
  rw [leave, foldl_fill]

theorem Desk.reply_answer (d : Desk μ) (j k : CallerId) (r : PipelineResult) :
    (d.answer k r).reply j = if j = k then .answered r else d.reply j := rfl

theorem Desk.reply_received (d : Desk μ) (r : Request μ) (j : CallerId) :
    (d.received r).reply j = if j = r.caller then .pending else d.reply j := rfl

/-- A worker touches neither the lock nor the verdict. -/
theorem Attends.frame {d d' : Desk μ} {s s' : Status} {r : Option (Request μ)}
    (h : Attends d s r d' s') : d'.lock = d.lock ∧ d'.verdict = d.verdict := by
  cases h with
  | elsewhere => exact ⟨rfl, rfl⟩
  | take ht => rw [(Desk.take?_eq_some ht).2]; exact ⟨rfl, rfl⟩
  | answer => exact ⟨rfl, rfl⟩
  | stop => exact ⟨rfl, rfl⟩
  | bow => exact ⟨rfl, rfl⟩
  | leave => rw [Desk.leave_eq]; exact ⟨rfl, rfl⟩

/-- A caller touches no place for the answer but its own. -/
theorem Calls.reply_of_ne {d d' : Desk μ} {j k : CallerId} {p p' : Phase μ} (h : Calls d k p d' p')
    (hj : j ≠ k) : d'.reply j = d.reply j := by
  cases h with
  | send | sendOnly => rw [Desk.reply_received, if_neg hj]
  | _ => rfl

/-- Callers give no answers. -/
theorem Calls.answered_of_reply {d d' : Desk μ} {j k : CallerId} {p p' : Phase μ}
    {r : PipelineResult} (h : Calls d k p d' p') (hr : d'.reply j = .answered r) :
    d.reply j = .answered r := by
  cases h with
  | send | sendOnly =>
      rw [Desk.reply_received] at hr
      split at hr
      next => cases hr
      next => exact hr
  | _ => exact hr

/-- How a caller comes to know its result. -/
inductive Learns (d : Desk μ) (k : CallerId) (p : Phase μ) (r : PipelineResult) : Prop where
  | before : p.outcome? = some r → Learns d k p r
  | late : r = .error .timeout → Learns d k p r
  | refused : r = .error .shutdown → Learns d k p r
  | answered : d.reply k = .answered r → Learns d k p r
  | verdict : p = .consulting → d.verdict = some r → Learns d k p r
  | left : d.hasLeft = true ∨ d.reply k = .abandoned → r = .error d.gone → Learns d k p r

theorem Calls.learns {d d' : Desk μ} {k : CallerId} {p p' : Phase μ} {r : PipelineResult}
    (h : Calls d k p d' p') (hr : p'.outcome? = some r) : Learns d k p r := by
  cases h with
  | check | lock | commit | mark | send => cases hr
  | refuse => cases hr; exact .refused rfl
  | learn hv => cases hr; exact .verdict rfl hv
  | sendOnly => rw [Phase.outcome?_after] at hr; cases hr; exact .late rfl
  | fail hl => rw [Phase.outcome?_after] at hr; cases hr; exact .left (.inl hl) rfl
  | hear ht =>
      rw [Phase.outcome?_after] at hr
      cases hr
      rcases ht with rfl | ha | ⟨ha, rfl⟩
      · exact .late rfl
      · exact .answered ha
      · exact .left (.inr ha) rfl
  | join | conclude => exact .before hr

theorem Calls.spent {d d' : Desk μ} {k : CallerId} {p p' : Phase μ} (h : Calls d k p d' p')
    (hp : p.Spent) : p'.Spent := by
  cases h <;> first | exact hp.elim | exact trivial | exact Phase.spent_after _ _

/-- A caller that has marked the worker as draining goes on until it leaves a verdict. -/
theorem Calls.committed {d d' : Desk μ} {k : CallerId} {p p' : Phase μ} (h : Calls d k p d' p')
    (hp : p.Committed) : p'.Committed ∨ d'.verdict ≠ none := by
  cases h with
  | send => exact .inl hp
  | sendOnly => exact .inl ((Phase.committed_after _ _).2 hp)
  | fail => exact .inl ((Phase.committed_after _ _).2 hp)
  | hear => exact .inl ((Phase.committed_after _ _).2 hp)
  | join => exact .inl trivial
  | conclude => exact .inr (by simp [Desk.conclude, Desk.release])
  | _ => exact hp.elim

/-- A caller takes the lock for itself only, and keeps it until it gives it back. -/
theorem Calls.lock_cases {d d' : Desk μ} {j k : CallerId} {p p' : Phase μ} (h : Calls d k p d' p')
    (hl : d'.lock = some j) :
    j = k ∧ p'.Holds ∨ d.lock = some j ∧ (p.Holds → p'.Holds) := by
  cases h with
  | lock => cases hl; exact .inl ⟨rfl, trivial⟩
  | learn | conclude => cases hl
  | check | refuse => exact .inr ⟨hl, fun hp => hp.elim⟩
  | mark => exact .inr ⟨hl, fun _ => rfl⟩
  | commit | join => exact .inr ⟨hl, fun _ => trivial⟩
  | send => exact .inr ⟨hl, id⟩
  | sendOnly | fail | hear => exact .inr ⟨hl, (Phase.holds_after _ _).2⟩

/-- A caller's step leaves the inbox alone, or puts the caller's request into it. -/
theorem Calls.inbox {d d' : Desk μ} {k : CallerId} {p p' : Phase μ} (h : Calls d k p d' p') :
    d'.inbox = d.inbox ∨ ∃ o t, p = .sending o ∧ p'.Spent ∧ (o = .shutdown → p'.Committed) ∧
      d'.inbox = d.inbox ++ [⟨k, o, t⟩] := by
  cases h with
  | send => exact .inr ⟨_, _, rfl, trivial, id, rfl⟩
  | sendOnly =>
      exact .inr ⟨_, _, rfl, Phase.spent_after _ _, (Phase.committed_after _ _).2, rfl⟩
  | _ => exact .inl rfl

/-- What a worker takes up and leaves in the inbox was there before, in the same order. -/
theorem Attends.inbox {d d' : Desk μ} {s s' : Status} {r : Option (Request μ)}
    (h : Attends d s r d' s') : List.Sublist (r.toList ++ d'.inbox) d.inbox := by
  cases h with
  | take ht => rw [(Desk.take?_eq_some ht).1]; exact .refl _
  | leave => rw [Desk.leave_eq]; exact List.nil_sublist _
  | _ => exact .refl _

/-! ## Callers and the lock -/

/-- How a call agrees with the lock and the verdict of the desk. -/
structure Call.Sits (d : Desk μ) (k : CallerId) (c : Call μ) : Prop where
  fits : c.phase.Fits c.order
  holder : c.phase.Holds → d.lock = some k
  engaged : c.phase = .marking ∨ c.phase.Committed → d.verdict = none
  verdict : ∀ r, c.order = .shutdown → c.phase = .done r → d.verdict = some r

theorem Call.Sits.of_after {d : Desk μ} {k : CallerId} {order : Order μ} {r : PipelineResult}
    (hh : order = .shutdown → d.lock = some k) (he : order = .shutdown → d.verdict = none) :
    Call.Sits d k ⟨order, .after order r⟩ where
  fits := Phase.fits_after order r
  holder h := hh ((Phase.holds_after order r).1 h)
  engaged h := by
    cases order with
    | flush m => simp [Phase.after_flush, Phase.Committed] at h
    | shutdown => exact he rfl
  verdict r' ho hr := by
    cases ho
    rcases Phase.after_shutdown (μ := μ) r with h | h <;> simp [h] at hr

/-- A step leaves its caller in agreement with the desk. -/
theorem Call.Sits.step {d d' : Desk μ} {k : CallerId} {order : Order μ} {p p' : Phase μ}
    (h : Call.Sits d k ⟨order, p⟩) (hc : Calls d k p d' p') : Call.Sits d' k ⟨order, p'⟩ := by
  obtain ⟨hf, hh, he, hv⟩ := h
  cases hc with
  | check => constructor <;> simp_all [Phase.Fits, Phase.Holds, Phase.Committed]
  | refuse => constructor <;> simp_all [Phase.Fits, Phase.Holds, Phase.Committed]
  | lock => constructor <;> simp_all [Phase.Fits, Phase.Holds, Phase.Committed]
  | learn => constructor <;> simp_all [Phase.Fits, Phase.Holds, Phase.Committed, Desk.release]
  | commit => constructor <;> simp_all [Phase.Fits, Phase.Holds, Phase.Committed]
  | mark => constructor <;> simp_all [Phase.Fits, Phase.Holds, Phase.Committed, Desk.mark]
  | send =>
      constructor <;>
        simp_all [Phase.Fits, Phase.Holds, Phase.Committed, Desk.received, Desk.fill]
  | sendOnly =>
      change _ = order at hf
      subst hf
      exact .of_after hh fun ho => he (.inr ho)
  | fail =>
      change _ = order at hf
      subst hf
      exact .of_after hh fun ho => he (.inr ho)
  | hear =>
      change _ = order at hf
      subst hf
      exact .of_after hh fun ho => he (.inr ho)
  | join => constructor <;> simp_all [Phase.Fits, Phase.Holds, Phase.Committed, Desk.mark]
  | conclude =>
      constructor <;>
        simp_all [Phase.Fits, Phase.Holds, Phase.Committed, Desk.conclude, Desk.release]

/-- The lock is taken from nobody else, and a verdict that was left stays. -/
theorem Call.Sits.keeps {d d' : Desk μ} {k : CallerId} {order : Order μ} {p p' : Phase μ}
    (h : Call.Sits d k ⟨order, p⟩) (hc : Calls d k p d' p') :
    (∀ j, j ≠ k → d.lock = some j → d'.lock = some j ∧ d'.verdict = d.verdict) ∧
      ∀ r, d.verdict = some r → d'.verdict = some r := by
  cases hc with
  | lock hl =>
      refine ⟨fun j _ hj => ?_, fun _ hr => hr⟩
      rw [hl] at hj
      cases hj
  | learn hv =>
      have hk : d.lock = some k := h.holder trivial
      refine ⟨fun j hj hl => ?_, fun _ hr => hr⟩
      rw [hk] at hl
      cases hl
      exact absurd rfl hj
  | conclude =>
      have hk : d.lock = some k := h.holder trivial
      have hn : d.verdict = none := h.engaged (.inr trivial)
      refine ⟨fun j hj hl => ?_, fun r hr => ?_⟩
      · rw [hk] at hl
        cases hl
        exact absurd rfl hj
      · rw [hn] at hr
        cases hr
  | _ => exact ⟨fun _ _ hl => ⟨hl, rfl⟩, fun _ hr => hr⟩

/-- A step leaves all other callers in agreement with the desk. -/
theorem Call.Sits.beside {d d' : Desk μ} {j k : CallerId} {c : Call μ} {order : Order μ}
    {p p' : Phase μ} (hj : Call.Sits d j c) (hne : j ≠ k) (h : Call.Sits d k ⟨order, p⟩)
    (hc : Calls d k p d' p') : Call.Sits d' j c where
  fits := hj.fits
  holder hh := ((h.keeps hc).1 j hne (hj.holder hh)).1
  engaged he := by
    have hh : c.phase.Holds := by
      rcases he with he | he
      · rw [he]; exact trivial
      · exact he.holds
    rw [((h.keeps hc).1 j hne (hj.holder hh)).2]
    exact hj.engaged he
  verdict r ho hr := (h.keeps hc).2 r (hj.verdict r ho hr)

theorem Call.Sits.opening (d : Desk μ) (k : CallerId) (order : Order μ) :
    Call.Sits d k (.opening order) := by
  cases order <;> constructor <;> simp [Call.opening, Phase.Fits, Phase.Holds, Phase.Committed]

namespace Front

/-- All callers agree with the lock and the verdict. -/
def Seated (f : Front μ) : Prop := ∀ k c, f.callers k = some c → c.Sits f.desk k

theorem seat_eq_some {cs : CallerId → Option (Call μ)} {j k : CallerId} {b c : Call μ}
    (h : seat cs k c j = some b) : j = k ∧ b = c ∨ j ≠ k ∧ cs j = some b := by
  unfold seat at h
  split at h
  next hj => cases h; exact .inl ⟨hj, rfl⟩
  next hj => exact .inr ⟨hj, h⟩

theorem seat_self (cs : CallerId → Option (Call μ)) (k : CallerId) (c : Call μ) :
    seat cs k c k = some c := if_pos rfl

theorem seat_of_ne (cs : CallerId → Option (Call μ)) {j k : CallerId} (c : Call μ) (h : j ≠ k) :
    seat cs k c j = cs j := if_neg h

/-- Another caller does not take the place of one that is there. -/
theorem seat_of_some {cs : CallerId → Option (Call μ)} {j k : CallerId} {b c : Call μ}
    (hk : cs k = none) (hj : cs j = some b) : seat cs k c j = some b := by
  refine (seat_of_ne cs c ?_).trans hj
  rintro rfl
  rw [hk] at hj
  cases hj

/-- A step of one caller changes the call of that caller at most. -/
theorem seat_cases {cs : CallerId → Option (Call μ)} {j k : CallerId} {b c : Call μ} (c' : Call μ)
    (hj : cs j = some b) (hk : cs k = some c) :
    j = k ∧ b = c ∧ seat cs k c' j = some c' ∨ j ≠ k ∧ seat cs k c' j = some b := by
  by_cases hjk : j = k
  · subst hjk
    rw [hk] at hj
    exact .inl ⟨rfl, (Option.some.inj hj).symm, seat_self _ _ _⟩
  · exact .inr ⟨hjk, (seat_of_ne _ _ hjk).trans hj⟩

theorem Seated.step {f f' : Front μ} (h : f.Seated) (hs : Step f f') : f'.Seated := by
  intro j b hj
  cases hs with
  | attend ha =>
      obtain ⟨hf, hh, he, hv⟩ := h j b hj
      exact ⟨hf, fun hb => ha.frame.1.trans (hh hb), fun hb => ha.frame.2.trans (he hb),
        fun r ho hr => ha.frame.2.trans (hv r ho hr)⟩
  | come hk =>
      rcases seat_eq_some hj with ⟨rfl, rfl⟩ | ⟨_, hb⟩
      · exact .opening _ _ _
      · exact h j b hb
  | call hk hc =>
      rcases seat_eq_some hj with ⟨rfl, rfl⟩ | ⟨hne, hb⟩
      · exact (h j _ hk).step hc
      · exact (h j b hb).beside hne (h _ _ hk) hc

/-- Two callers that have marked the worker as draining are one. -/
theorem Seated.eq_of_holds {f : Front μ} (h : f.Seated) {j k : CallerId} {b c : Call μ}
    (hj : f.callers j = some b) (hk : f.callers k = some c) (hb : b.phase.Holds)
    (hc : c.phase.Holds) : j = k := by
  have := (h j b hj).holder hb
  rw [(h k c hk).holder hc] at this
  exact (Option.some.inj this).symm

/-! ## Requests -/

/-- Each request belongs to a caller that sends no other one, and at most one asks for a
shutdown. -/
structure Filed (f : Front μ) : Prop where
  sent : ∀ r ∈ f.requests, ∃ c, f.callers r.caller = some c ∧ c.order = r.order ∧ c.phase.Spent
  distinct : (f.requests.map (·.caller)).Nodup
  pending : ∀ r ∈ f.requests, r.order = .shutdown → f.desk.verdict = none →
    ∃ c, f.callers r.caller = some c ∧ c.phase.Committed
  once : (f.requests.filter (·.order.isShutdown)).length ≤ 1

theorem Filed.of_sublist {f f' : Front μ} (h : f.Filed) (hr : List.Sublist f'.requests f.requests)
    (hc : f'.callers = f.callers) (hv : f'.desk.verdict = f.desk.verdict) : f'.Filed where
  sent r hm := hc ▸ h.sent r (hr.subset hm)
  distinct := (hr.map _).nodup h.distinct
  pending r hm ho hn := hc ▸ h.pending r (hr.subset hm) ho (hv ▸ hn)
  once := Nat.le_trans (hr.filter _).length_le h.once

/-- While a caller is about to send a shutdown, there is none yet. -/
theorem Filed.none_before {f : Front μ} (h : f.Filed) (hst : f.Seated) {k : CallerId}
    {order : Order μ} (hk : f.callers k = some ⟨order, .sending .shutdown⟩) :
    ∀ r ∈ f.requests, r.order ≠ .shutdown := by
  intro r hr ho
  obtain ⟨c, hc, hcom⟩ := h.pending r hr ho ((hst k _ hk).engaged (.inr rfl))
  obtain ⟨c', hc', _, hspent⟩ := h.sent r hr
  have hjk : r.caller = k := hst.eq_of_holds hc hk hcom.holds rfl
  rw [hjk, hk] at hc'
  cases hc'
  exact hspent

section Call

variable {d d' : Desk μ} {s : Status} {cs : CallerId → Option (Call μ)} {hs : List (Request μ)}
  {k : CallerId} {order o : Order μ} {p p' : Phase μ}

theorem Filed.sent_call (h : Filed ⟨d, s, cs, hs⟩) (hk : cs k = some ⟨order, p⟩)
    (hc : Calls d k p d' p') : ∀ r ∈ requests ⟨d, s, cs, hs⟩,
      ∃ c, seat cs k ⟨order, p'⟩ r.caller = some c ∧ c.order = r.order ∧ c.phase.Spent := by
  intro r hr
  obtain ⟨c, hcr, ho, hspent⟩ := h.sent r hr
  rcases seat_cases ⟨order, p'⟩ hcr hk with ⟨-, rfl, hs'⟩ | ⟨-, hs'⟩
  · exact ⟨_, hs', ho, hc.spent hspent⟩
  · exact ⟨c, hs', ho, hspent⟩

theorem Filed.pending_call (h : Filed ⟨d, s, cs, hs⟩) (hst : Seated ⟨d, s, cs, hs⟩)
    (hk : cs k = some ⟨order, p⟩) (hc : Calls d k p d' p') :
    ∀ r ∈ requests ⟨d, s, cs, hs⟩, r.order = .shutdown → d'.verdict = none →
      ∃ c, seat cs k ⟨order, p'⟩ r.caller = some c ∧ c.phase.Committed := by
  intro r hr ho hn
  have hn' : d.verdict = none := by
    cases hd : d.verdict with
    | none => rfl
    | some v =>
        have := ((hst k _ hk).keeps hc).2 v hd
        rw [hn] at this
        cases this
  obtain ⟨c, hcr, hcom⟩ := h.pending r hr ho hn'
  rcases seat_cases ⟨order, p'⟩ hcr hk with ⟨-, rfl, hs'⟩ | ⟨-, hs'⟩
  · exact ⟨_, hs', (hc.committed hcom).resolve_right (not_not_intro hn)⟩
  · exact ⟨c, hs', hcom⟩

/-- A request that is about to be sent is the first one of its caller. -/
theorem Filed.distinct_send (h : Filed ⟨d, s, cs, hs⟩) (hk : cs k = some ⟨order, .sending o⟩)
    (t : Nat) : ((requests ⟨d, s, cs, hs⟩ ++ [Request.mk k o t]).map (·.caller)).Nodup := by
  have hnew : k ∉ (requests ⟨d, s, cs, hs⟩).map (·.caller) := by
    intro hm
    obtain ⟨r, hr, rfl⟩ := List.mem_map.1 hm
    obtain ⟨c, hcr, _, hsp⟩ := h.sent r hr
    simp only [hk, Option.some.injEq] at hcr
    subst hcr
    exact hsp
  rw [List.map_append, List.nodup_append]
  refine ⟨h.distinct, by simp, ?_⟩
  rintro a ha b hb rfl
  exact hnew (by simpa [List.mem_singleton.1 hb] using ha)

theorem Filed.once_send (h : Filed ⟨d, s, cs, hs⟩) (hst : Seated ⟨d, s, cs, hs⟩)
    (hk : cs k = some ⟨order, .sending o⟩) (t : Nat) :
    ((requests ⟨d, s, cs, hs⟩ ++ [Request.mk k o t]).filter (·.order.isShutdown)).length ≤ 1 := by
  rw [List.filter_append, List.length_append]
  cases o with
  | flush m => simpa [Order.isShutdown] using h.once
  | shutdown =>
      have hnone := h.none_before hst hk
      have hnil : (requests ⟨d, s, cs, hs⟩).filter (·.order.isShutdown) = [] := by
        rw [List.filter_eq_nil_iff]
        intro r hr hsd
        have := hnone r hr
        cases hro : r.order <;> simp_all [Order.isShutdown]
      rw [hnil]
      simp [Order.isShutdown]

theorem Filed.call (h : Filed ⟨d, s, cs, hs⟩) (hst : Seated ⟨d, s, cs, hs⟩)
    (hk : cs k = some ⟨order, p⟩) (hc : Calls d k p d' p') :
    Filed ⟨d', s, seat cs k ⟨order, p'⟩, hs⟩ := by
  have hsent := h.sent_call hk hc
  have hpend := h.pending_call hst hk hc
  rcases hc.inbox with hi | ⟨o, t, rfl, hspent, hcom, hi⟩
  · have hreq : requests ⟨d', s, seat cs k ⟨order, p'⟩, hs⟩ = requests ⟨d, s, cs, hs⟩ := by
      simp only [requests, hi]
    exact ⟨hreq ▸ hsent, hreq ▸ h.distinct, hreq ▸ hpend, hreq ▸ h.once⟩
  · have hreq : requests ⟨d', s, seat cs k ⟨order, p'⟩, hs⟩ =
        requests ⟨d, s, cs, hs⟩ ++ [⟨k, o, t⟩] := by
      simp only [requests, hi, List.append_assoc]
    have ho : o = order := (hst k _ hk).fits
    refine ⟨?_, ?_, ?_, ?_⟩ <;> rw [hreq]
    · intro r hr
      rcases List.mem_append.1 hr with hr | hr
      · exact hsent r hr
      · cases List.mem_singleton.1 hr
        exact ⟨_, seat_self _ _ _, ho.symm, hspent⟩
    · exact h.distinct_send hk t
    · intro r hr hsd hn
      rcases List.mem_append.1 hr with hr | hr
      · exact hpend r hr hsd hn
      · cases List.mem_singleton.1 hr
        exact ⟨_, seat_self _ _ _, hcom hsd⟩
    · exact h.once_send hst hk t

end Call

theorem Filed.step {f f' : Front μ} (h : f.Filed) (hst : f.Seated) (hs : Step f f') : f'.Filed := by
  cases hs with
  | attend ha =>
      refine h.of_sublist ?_ rfl ha.frame.2
      simp only [requests, List.append_assoc]
      exact ha.inbox.append_left _
  | come hk =>
      refine ⟨fun r hr => ?_, h.distinct, fun r hr ho hn => ?_, h.once⟩
      · obtain ⟨c, hc, hrest⟩ := h.sent r hr
        exact ⟨c, seat_of_some hk hc, hrest⟩
      · obtain ⟨c, hc, hrest⟩ := h.pending r hr ho hn
        exact ⟨c, seat_of_some hk hc, hrest⟩
  | call hk hc => exact h.call hst hk hc

/-! ## Lifecycle and status -/

/-- A shutdown has marked the worker as draining. -/
def Underway (f : Front μ) : Prop :=
  f.desk.verdict ≠ none ∨ ∃ k c, f.callers k = some c ∧ c.phase.Committed

/-- The lifecycle tells how far the shutdown and the worker have got. -/
structure Aligned (f : Front μ) : Prop where
  running : f.desk.lifecycle ≠ .running ↔ f.Underway
  stopped : f.desk.lifecycle = .stopped ↔ f.status.HasStopped
  left : f.desk.hasLeft = true ↔ f.status = .gone
  unclosed : f.status.IsOpen → ∀ r ∈ f.handled, r.order ≠ .shutdown
  serving : ∀ k, f.status = .serving k → ∃ r ∈ f.handled, r.caller = k ∧ r.order ≠ .shutdown
  closing : ∀ k, f.status = .closing k ∨ f.status = .closed k →
    ∃ r ∈ f.handled, r.caller = k ∧ r.order = .shutdown

/-- A shutdown that the worker has taken up is under way. -/
theorem Filed.underway {f : Front μ} (h : f.Filed) {r : Request μ} (hr : r ∈ f.handled)
    (ho : r.order = .shutdown) : f.Underway := by
  by_cases hv : f.desk.verdict = none
  · obtain ⟨c, hc, hcom⟩ := h.pending r (List.mem_append_left _ hr) ho hv
    exact .inr ⟨_, c, hc, hcom⟩
  · exact .inl hv

section Attend

variable {d d' : Desk μ} {s s' : Status} {cs : CallerId → Option (Call μ)} {hs : List (Request μ)}

theorem Aligned.take {q : Request μ} (h : Aligned ⟨d, .free, cs, hs⟩) (ht : d.take? = some (q, d')) :
    Aligned ⟨d', q.status, cs, hs ++ [q]⟩ := by
  obtain ⟨hrun, hstop, hleft, hopen, hserve, hclose⟩ := h
  rw [(Desk.take?_eq_some ht).2]
  have hq : q ∈ hs ++ [q] := List.mem_append_right _ (List.mem_singleton_self q)
  cases ho : q.order with
  | flush m =>
      have hst : q.status = .serving q.caller := by rw [Request.status, ho]
      rw [hst]
      refine ⟨hrun, hstop, hleft.trans (by simp), ?_, ?_, ?_⟩
      · intro _ b hb
        rcases List.mem_append.1 hb with hb | hb
        · exact hopen trivial b hb
        · rw [List.mem_singleton.1 hb, ho]
          simp
      · rintro k hk
        cases hk
        exact ⟨q, hq, rfl, by rw [ho]; simp⟩
      · rintro k (hk | hk) <;> cases hk
  | shutdown =>
      have hst : q.status = .closing q.caller := by rw [Request.status, ho]
      rw [hst]
      refine ⟨hrun, hstop, hleft.trans (by simp), fun hop => hop.elim, ?_, ?_⟩
      · rintro k hk
        cases hk
      · rintro k (hk | hk) <;> cases hk
        exact ⟨q, hq, rfl, ho⟩

theorem Aligned.attend {r : Option (Request μ)} (h : Aligned ⟨d, s, cs, hs⟩)
    (hf : Filed ⟨d, s, cs, hs⟩) (ha : Attends d s r d' s') :
    Aligned ⟨d', s', cs, hs ++ r.toList⟩ := by
  cases ha with
  | take ht => exact h.take ht
  | elsewhere => rwa [Option.toList_none, List.append_nil]
  | answer =>
      obtain ⟨hrun, hstop, hleft, hopen, hserve, hclose⟩ := h
      rw [Option.toList_none, List.append_nil]
      refine ⟨hrun, hstop, hleft.trans (by simp), fun _ => hopen trivial, ?_, ?_⟩
      · rintro k hk
        cases hk
      · rintro k (hk | hk) <;> cases hk
  | @stop k =>
      obtain ⟨hrun, hstop, hleft, hopen, hserve, hclose⟩ := h
      rw [Option.toList_none, List.append_nil]
      obtain ⟨q, hq, hqk, ho⟩ := hclose k (.inl rfl)
      refine ⟨?_, ?_, hleft.trans (by simp), fun hop => hop.elim, ?_, ?_⟩
      · exact iff_of_true (by simp [Desk.mark]) (hf.underway hq ho)
      · simp [Desk.mark, Status.HasStopped]
      · rintro j hj
        cases hj
      · rintro j (hj | hj) <;> cases hj
        exact ⟨q, hq, hqk, ho⟩
  | bow =>
      obtain ⟨hrun, hstop, hleft, hopen, hserve, hclose⟩ := h
      rw [Option.toList_none, List.append_nil]
      refine ⟨hrun, hstop, hleft.trans (by simp), fun hop => hop.elim, ?_, ?_⟩
      · rintro k hk
        cases hk
      · rintro k (hk | hk) <;> cases hk
  | leave =>
      obtain ⟨hrun, hstop, hleft, hopen, hserve, hclose⟩ := h
      rw [Option.toList_none, List.append_nil, Desk.leave_eq]
      refine ⟨hrun, hstop, by simp, fun hop => hop.elim, ?_, ?_⟩
      · rintro k hk
        cases hk
      · rintro k (hk | hk) <;> cases hk

end Attend

/-- What a caller's step does to the shutdown that is under way. -/
theorem underway_call (d d' : Desk μ) {s : Status} {cs : CallerId → Option (Call μ)}
    {hs : List (Request μ)} {k : CallerId} {order : Order μ} {p p' : Phase μ}
    (hk : cs k = some ⟨order, p⟩) (hd : d'.verdict ≠ none ↔ d.verdict ≠ none)
    (hp : p'.Committed ↔ p.Committed) :
    Underway ⟨d', s, seat cs k ⟨order, p'⟩, hs⟩ ↔ Underway ⟨d, s, cs, hs⟩ := by
  simp only [Underway, hd]
  refine or_congr Iff.rfl ⟨?_, ?_⟩
  · rintro ⟨j, c, hj, hc⟩
    rcases seat_eq_some hj with ⟨rfl, rfl⟩ | ⟨_, hb⟩
    · exact ⟨j, _, hk, hp.1 hc⟩
    · exact ⟨j, c, hb, hc⟩
  · rintro ⟨j, c, hj, hc⟩
    rcases seat_cases ⟨order, p'⟩ hj hk with ⟨-, rfl, hs'⟩ | ⟨-, hs'⟩
    · exact ⟨j, _, hs', hp.2 hc⟩
    · exact ⟨j, c, hs', hc⟩

/-- A caller that is about to mark the worker as draining is the first one. -/
theorem Seated.not_underway {f : Front μ} (h : f.Seated) {k : CallerId} {order : Order μ}
    (hk : f.callers k = some ⟨order, .marking⟩) : ¬ f.Underway := by
  rintro (hv | ⟨j, c, hj, hc⟩)
  · exact hv ((h k _ hk).engaged (.inl rfl))
  · obtain rfl := h.eq_of_holds hj hk hc.holds trivial
    rw [hk] at hj
    cases hj
    exact hc

theorem Aligned.call {d d' : Desk μ} {s : Status} {cs : CallerId → Option (Call μ)}
    {hs : List (Request μ)} {k : CallerId} {order : Order μ} {p p' : Phase μ}
    (h : Aligned ⟨d, s, cs, hs⟩) (hst : Seated ⟨d, s, cs, hs⟩) (hk : cs k = some ⟨order, p⟩)
    (hc : Calls d k p d' p') : Aligned ⟨d', s, seat cs k ⟨order, p'⟩, hs⟩ := by
  obtain ⟨hrun, hstop, hleft, hopen, hserve, hclose⟩ := h
  cases hc with
  | check | refuse | lock | learn | commit =>
      exact ⟨hrun.trans (underway_call d d hk Iff.rfl (by simp [Phase.Committed])).symm,
        hstop, hleft, hopen, hserve, hclose⟩
  | send =>
      exact ⟨hrun.trans (underway_call d (d.received _) hk Iff.rfl (by exact Iff.rfl)).symm,
        hstop, hleft, hopen, hserve, hclose⟩
  | sendOnly =>
      exact ⟨hrun.trans (underway_call d (d.received _) hk Iff.rfl (Phase.committed_after _ _)).symm,
        hstop, hleft, hopen, hserve, hclose⟩
  | fail | hear =>
      exact ⟨hrun.trans (underway_call d d hk Iff.rfl (Phase.committed_after _ _)).symm,
        hstop, hleft, hopen, hserve, hclose⟩
  | mark =>
      have hns : ¬ s.HasStopped := fun hs' =>
        hst.not_underway hk (hrun.1 (by rw [hstop.2 hs']; simp))
      refine ⟨?_, ?_, hleft, hopen, hserve, hclose⟩
      · exact iff_of_true (by simp [Desk.mark]) (.inr ⟨k, _, seat_self _ _ _, rfl⟩)
      · exact iff_of_false (by simp [Desk.mark]) hns
  | join hl =>
      have hg : s = .gone := hleft.1 hl
      refine ⟨?_, ?_, hleft, hopen, hserve, hclose⟩
      · exact iff_of_true (by simp [Desk.mark]) (.inr ⟨k, _, seat_self _ _ _, trivial⟩)
      · exact iff_of_true rfl (by rw [hg]; exact trivial)
  | conclude =>
      refine ⟨?_, hstop, hleft, hopen, hserve, hclose⟩
      exact iff_of_true (hrun.2 (.inr ⟨k, _, hk, trivial⟩)) (.inl (by simp [Desk.conclude, Desk.release]))

theorem Aligned.step {f f' : Front μ} (h : f.Aligned) (hst : f.Seated) (hf : f.Filed)
    (hs : Step f f') : f'.Aligned := by
  cases hs with
  | attend ha => exact h.attend hf ha
  | @come d s cs hs k order hk =>
      obtain ⟨hrun, hstop, hleft, hopen, hserve, hclose⟩ := h
      refine ⟨hrun.trans ?_, hstop, hleft, hopen, hserve, hclose⟩
      refine or_congr Iff.rfl ⟨?_, ?_⟩
      · rintro ⟨j, c, hj, hc⟩
        exact ⟨j, c, seat_of_some hk hj, hc⟩
      · rintro ⟨j, c, hj, hc⟩
        rcases seat_eq_some hj with ⟨rfl, rfl⟩ | ⟨_, hb⟩
        · cases order <;> exact hc.elim
        · exact ⟨j, c, hb, hc⟩
  | call hk hc => exact h.call hst hk hc

/-! ## Results -/

/-- Nobody is told that the worker is gone. -/
structure Truthful (f : Front μ) : Prop where
  answered : ∀ k r, f.desk.reply k = .answered r → r ≠ .error .workerGone
  abandoned : ∀ k, f.desk.reply k = .abandoned → f.desk.hasLeft = true
  outcome : ∀ k c r, f.callers k = some c → c.phase.outcome? = some r → r ≠ .error .workerGone
  verdict : ∀ r, f.desk.verdict = some r → r ≠ .error .workerGone

/-- A caller to whom no answer will come is told of a shutdown. -/
theorem Aligned.gone_eq {f : Front μ} (h : f.Aligned) (hl : f.desk.hasLeft = true) :
    f.desk.gone = .shutdown := by
  have hs : f.desk.lifecycle = .stopped := h.stopped.2 (by rw [h.left.1 hl]; exact trivial)
  rw [Desk.gone, if_pos hs]

theorem Truthful.attend {d d' : Desk μ} {s s' : Status} {cs : CallerId → Option (Call μ)}
    {hs hs' : List (Request μ)} {r : Option (Request μ)} (h : Truthful ⟨d, s, cs, hs⟩)
    (ha : Attends d s r d' s') : Truthful ⟨d', s', cs, hs'⟩ := by
  obtain ⟨hans, haband, hout, hver⟩ := h
  refine ⟨?_, ?_, hout, fun r hr => hver r (ha.frame.2 ▸ hr)⟩
  · intro j q hq
    cases ha with
    | take ht => rw [(Desk.take?_eq_some ht).2] at hq; exact hans j q hq
    | answer hne | bow hne =>
        rw [Desk.reply_answer] at hq
        split at hq
        · cases hq
          exact hne
        · exact hans j q hq
    | leave =>
        simp only [Desk.leave_eq] at hq
        split at hq
        · cases hq
        · exact hans j q hq
    | _ => exact hans j q hq
  · intro j hj
    cases ha with
    | take ht => rw [(Desk.take?_eq_some ht).2] at hj ⊢; exact haband j hj
    | answer | bow =>
        rw [Desk.reply_answer] at hj
        split at hj
        · cases hj
        · exact haband j hj
    | leave => rw [Desk.leave_eq]
    | _ => exact haband j hj

theorem Truthful.call {d d' : Desk μ} {s : Status} {cs : CallerId → Option (Call μ)}
    {hs : List (Request μ)} {k : CallerId} {order : Order μ} {p p' : Phase μ}
    (h : Truthful ⟨d, s, cs, hs⟩) (ha : Aligned ⟨d, s, cs, hs⟩) (hk : cs k = some ⟨order, p⟩)
    (hc : Calls d k p d' p') : Truthful ⟨d', s, seat cs k ⟨order, p'⟩, hs⟩ := by
  have hown : ∀ r, p'.outcome? = some r → r ≠ .error .workerGone := by
    intro r hr
    cases hc.learns hr with
    | before hb => exact h.outcome k _ r hk hb
    | late ht | refused ht => simp [ht]
    | answered hans => exact h.answered k r hans
    | verdict _ hv => exact h.verdict r hv
    | left hl hg => simp [hg, ha.gone_eq (hl.elim id (h.abandoned k))]
  refine ⟨?_, ?_, ?_, ?_⟩
  · intro j q hq
    cases hc with
    | send | sendOnly =>
        rw [Desk.reply_received] at hq
        split at hq
        · cases hq
        · exact h.answered j q hq
    | _ => exact h.answered j q hq
  · intro j hj
    cases hc with
    | send | sendOnly =>
        rw [Desk.reply_received] at hj
        split at hj
        · cases hj
        · exact h.abandoned j hj
    | _ => exact h.abandoned j hj
  · intro j c r hj hr
    rcases seat_eq_some hj with ⟨rfl, rfl⟩ | ⟨_, hb⟩
    · exact hown r hr
    · exact h.outcome j c r hb hr
  · intro r hr
    cases hc with
    | conclude => cases hr; exact hown _ rfl
    | _ => exact h.verdict r hr

theorem Truthful.step {f f' : Front μ} (h : f.Truthful) (ha : f.Aligned) (hs : Step f f') :
    f'.Truthful := by
  cases hs with
  | attend hat => exact h.attend hat
  | come hk =>
      refine ⟨h.answered, h.abandoned, ?_, h.verdict⟩
      intro j c r hj hr
      rcases seat_eq_some hj with ⟨rfl, rfl⟩ | ⟨_, hb⟩
      · rename_i order
        cases order <;> cases hr
      · exact h.outcome j c r hb hr
  | call hk hc => exact h.call ha hk hc

/-! ## Waiting -/

/-- A caller that waits in vain so far has its request in the inbox or in the worker's hands. -/
def Awaited (f : Front μ) : Prop :=
  ∀ k order o t, f.callers k = some ⟨order, .waiting o t⟩ → f.desk.reply k = .pending →
    k ∈ f.desk.inbox.map (·.caller) ∨ f.status.Owes k

theorem Awaited.attend {d d' : Desk μ} {s s' : Status} {cs : CallerId → Option (Call μ)}
    {hs hs' : List (Request μ)} {r : Option (Request μ)} (h : Awaited ⟨d, s, cs, hs⟩)
    (ha : Attends d s r d' s') : Awaited ⟨d', s', cs, hs'⟩ := by
  intro k order o t hk hp
  cases ha with
  | elsewhere | stop => exact h k order o t hk hp
  | take ht =>
      rw [(Desk.take?_eq_some ht).2] at hp
      have hin := (h k order o t hk hp).resolve_right id
      simp only [(Desk.take?_eq_some ht).1, List.map_cons, List.mem_cons] at hin
      rcases hin with rfl | hin
      · refine .inr ?_
        simp only [Request.status]
        split <;> rfl
      · exact .inl hin
  | answer | bow =>
      rw [Desk.reply_answer] at hp
      split at hp
      next => cases hp
      next hne => exact (h k order o t hk hp).imp_right fun ho => absurd ho.symm hne
  | leave =>
      rw [Desk.leave_eq] at hp
      simp only at hp
      split at hp
      next => cases hp
      next hnot => exact absurd (h k order o t hk hp) (not_or.2 ⟨hnot, id⟩)

theorem Awaited.call {d d' : Desk μ} {s : Status} {cs : CallerId → Option (Call μ)}
    {hs : List (Request μ)} {k : CallerId} {order : Order μ} {p p' : Phase μ}
    (h : Awaited ⟨d, s, cs, hs⟩) (hc : Calls d k p d' p') :
    Awaited ⟨d', s, seat cs k ⟨order, p'⟩, hs⟩ := by
  intro j order' o t hj hp
  rcases seat_eq_some hj with ⟨rfl, heq⟩ | ⟨hne, hb⟩
  · have hp' : p' = .waiting o t := (Call.mk.inj heq).2.symm
    cases hc with
    | send =>
        simp [Desk.received, Desk.fill]
    | sendOnly | fail | hear =>
        have := congrArg Phase.outcome? hp'
        rw [Phase.outcome?_after] at this
        cases this
    | _ => cases hp'
  · cases hc with
    | send | sendOnly =>
        rw [Desk.reply_received] at hp
        split at hp
        next heq => exact absurd heq hne
        next =>
          refine (h j order' o t hb hp).imp_left fun hin => ?_
          simp only [Desk.received, Desk.fill, List.map_append, List.mem_append]
          exact .inl hin
    | _ => exact h j order' o t hb hp

theorem Awaited.step {f f' : Front μ} (h : f.Awaited) (hs : Step f f') : f'.Awaited := by
  cases hs with
  | attend ha => exact h.attend ha
  | come hk =>
      intro j order' o t hj hp
      rcases seat_eq_some hj with ⟨rfl, heq⟩ | ⟨_, hb⟩
      · rename_i order
        cases order <;> cases heq
      · exact h j order' o t hb hp
  | call hk hc => exact h.call hc

/-- Nothing lies in the inbox of a worker that has left. -/
def Cleared (f : Front μ) : Prop := f.desk.hasLeft = true → f.desk.inbox = []

theorem Cleared.step {f f' : Front μ} (h : f.Cleared) (ha : f.Aligned) (hs : Step f f') :
    f'.Cleared := by
  intro hl
  cases hs with
  | attend hat =>
      cases hat with
      | take ht =>
          rw [(Desk.take?_eq_some ht).2] at hl
          cases ha.left.1 hl
      | leave => rw [Desk.leave_eq]
      | _ => exact h hl
  | come => exact h hl
  | call _ hc =>
      cases hc with
      | send hn | sendOnly hn => exact absurd (hn.symm.trans hl) (by simp)
      | _ => exact h hl

/-! ## The lock -/

/-- Whoever has the lock is a caller on its way to giving it back. -/
def Held (f : Front μ) : Prop :=
  ∀ k, f.desk.lock = some k → ∃ c, f.callers k = some c ∧ c.phase.Holds

theorem Held.step {f f' : Front μ} (h : f.Held) (hs : Step f f') : f'.Held := by
  intro j hl
  cases hs with
  | attend ha => exact h j (ha.frame.1.symm.trans hl)
  | come hk =>
      obtain ⟨c, hc, hh⟩ := h j hl
      exact ⟨c, seat_of_some hk hc, hh⟩
  | @call d d' s cs hs k order p p' hk hc =>
      rcases hc.lock_cases hl with ⟨rfl, hh⟩ | ⟨hl, hh⟩
      · exact ⟨_, seat_self _ _ _, hh⟩
      · obtain ⟨c, hcj, hp⟩ := h j hl
        rcases seat_cases ⟨order, p'⟩ hcj hk with ⟨-, rfl, hs'⟩ | ⟨-, hs'⟩
        · exact ⟨_, hs', hh hp⟩
        · exact ⟨c, hs', hp⟩

/-! ## All of them -/

/-- Everything that holds before a worker. -/
structure Lawful (f : Front μ) : Prop where
  seated : f.Seated
  held : f.Held
  filed : f.Filed
  aligned : f.Aligned
  truthful : f.Truthful
  awaited : f.Awaited
  cleared : f.Cleared

theorem Lawful.step {f f' : Front μ} (h : f.Lawful) (hs : Step f f') : f'.Lawful where
  seated := h.seated.step hs
  held := h.held.step hs
  filed := h.filed.step h.seated hs
  aligned := h.aligned.step h.seated h.filed hs
  truthful := h.truthful.step h.aligned hs
  awaited := h.awaited.step hs
  cleared := h.cleared.step h.aligned hs

theorem Lawful.opened : Lawful (opened : Front μ) := by
  refine ⟨?_, ?_, ⟨?_, ?_, ?_, ?_⟩, ⟨?_, ?_, ?_, ?_, ?_, ?_⟩, ⟨?_, ?_, ?_, ?_⟩, ?_, ?_⟩ <;>
    simp [Front.opened, Desk.initial, Seated, Held, requests, Underway, Awaited, Cleared,
      Status.HasStopped]

theorem Lawful.steps {f f' : Front μ} (h : f.Lawful) (hs : Steps f f') : f'.Lawful := by
  induction hs with
  | refl => exact h
  | tail _ step ih => exact ih.step step

end Front

end Telemetry.Worker
