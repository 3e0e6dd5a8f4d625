import Mathlib.Logic.Relation
import Telemetry.Worker.Call

/-!
# The front of a worker

What the protocol of requests is about: a desk, how far the worker behind it has got with its
requests, and the callers before it.  `Attends` lists the steps of a worker at its desk and `Calls`
those of a caller, each with what the step requires and all that it does.  The machines that have
such a worker, and the clock, are left out here, so that one account of the protocol serves all of
them.

A worker leaves only after it has served a shutdown.  A caller may stop waiting at any time, and
nothing bounds how many callers there are or when they come.
-/

namespace Telemetry.Worker

variable {μ : Type}

/-! ## Workers -/

/-- How far a worker has got with its requests. -/
inductive Status where
  /-- It serves nobody. -/
  | free
  /-- It has taken up a flush that it owes the answer to. -/
  | serving (caller : CallerId)
  /-- It has taken up a shutdown. -/
  | closing (caller : CallerId)
  /-- It has noted that it has stopped, and owes the answer to the shutdown. -/
  | closed (caller : CallerId)
  /-- It has answered the shutdown. -/
  | leaving
  /-- It has left. -/
  | gone
deriving DecidableEq, Repr

/-- The worker has noted that it has stopped. -/
def Status.HasStopped : Status → Prop
  | .closed _ | .leaving | .gone => True
  | .free | .serving _ | .closing _ => False

/-- The worker may take up requests, now or later. -/
def Status.IsOpen : Status → Prop
  | .free | .serving _ => True
  | .closing _ | .closed _ | .leaving | .gone => False

/-- The worker has taken up the request of a caller and has not answered it. -/
def Status.Owes : Status → CallerId → Prop
  | .serving j, k | .closing j, k | .closed j, k => j = k
  | .free, _ | .leaving, _ | .gone, _ => False

def Order.isShutdown : Order μ → Bool
  | .flush _ => false
  | .shutdown => true

/-- The status of a worker that has taken up a request. -/
def Request.status (r : Request μ) : Status :=
  match r.order with
  | .flush _ => .serving r.caller
  | .shutdown => .closing r.caller

/-- A step of a worker, with the request that it takes up in it. -/
inductive Attends : Desk μ → Status → Option (Request μ) → Desk μ → Status → Prop where
  | elsewhere {d s} : Attends d s none d s
  | take {d d' r} : d.take? = some (r, d') → Attends d .free (some r) d' r.status
  | answer {d k result} : result ≠ .error .workerGone →
      Attends d (.serving k) none (d.answer k result) .free
  | stop {d k} : Attends d (.closing k) none (d.mark .stopped) (.closed k)
  | bow {d k result} : result ≠ .error .workerGone →
      Attends d (.closed k) none (d.answer k result) .leaving
  | leave {d} : Attends d .leaving none d.leave .gone

/-! ## Callers -/

namespace Phase

/-- The phases of a call that asks for something. -/
def Fits (order : Order μ) : Phase μ → Prop
  | .checking m => order = .flush m
  | .locking | .consulting | .marking | .joining _ | .concluding _ => order = .shutdown
  | .sending o | .waiting o _ => o = order
  | .done _ => True

/-- The caller has the lock. -/
def Holds : Phase μ → Prop
  | .consulting | .marking | .joining _ | .concluding _ => True
  | .sending o | .waiting o _ => o = .shutdown
  | .checking _ | .locking | .done _ => False

/-- The caller has marked the worker as draining, and has left no verdict yet. -/
def Committed : Phase μ → Prop
  | .joining _ | .concluding _ => True
  | .sending o | .waiting o _ => o = .shutdown
  | .checking _ | .locking | .consulting | .marking | .done _ => False

/-- No request of the caller will be sent any more. -/
def Spent : Phase μ → Prop
  | .waiting _ _ | .joining _ | .concluding _ | .done _ => True
  | .checking _ | .locking | .consulting | .marking | .sending _ => False

/-- What the caller will return or has returned, once it knows. -/
def outcome? : Phase μ → Option PipelineResult
  | .joining r | .concluding r | .done r => some r
  | _ => none

theorem Committed.holds {p : Phase μ} (h : p.Committed) : p.Holds := by
  cases p <;> simp_all [Committed, Holds]

/-- Only shutdowns take the lock. -/
theorem Fits.eq_shutdown {order : Order μ} {p : Phase μ} (h : p.Fits order) (hh : p.Holds) :
    order = .shutdown := by
  cases p <;> simp_all [Fits, Holds]

/-! What a call goes on with when its request has ended -/

theorem after_flush (m : μ) (r : PipelineResult) : after (.flush m) r = .done r := rfl

theorem after_shutdown (r : PipelineResult) :
    after (.shutdown : Order μ) r = .concluding r ∨ after (.shutdown : Order μ) r = .joining r := by
  by_cases h : r = .error .timeout
  · exact .inl (if_pos h)
  · exact .inr (if_neg h)

@[simp] theorem outcome?_after (order : Order μ) (r : PipelineResult) :
    (after order r).outcome? = some r := by
  cases order with
  | flush m => rfl
  | shutdown => rcases after_shutdown (μ := μ) r with h | h <;> rw [h] <;> rfl

@[simp] theorem fits_after (order : Order μ) (r : PipelineResult) : (after order r).Fits order := by
  cases order with
  | flush m => exact trivial
  | shutdown => rcases after_shutdown (μ := μ) r with h | h <;> rw [h] <;> rfl

@[simp] theorem spent_after (order : Order μ) (r : PipelineResult) : (after order r).Spent := by
  cases order with
  | flush m => exact trivial
  | shutdown => rcases after_shutdown (μ := μ) r with h | h <;> rw [h] <;> exact trivial

@[simp] theorem committed_after (order : Order μ) (r : PipelineResult) :
    (after order r).Committed ↔ order = .shutdown := by
  cases order with
  | flush m => simp [after_flush, Committed]
  | shutdown => rcases after_shutdown (μ := μ) r with h | h <;> rw [h] <;> simp [Committed]

@[simp] theorem holds_after (order : Order μ) (r : PipelineResult) :
    (after order r).Holds ↔ order = .shutdown := by
  cases order with
  | flush m => simp [after_flush, Holds]
  | shutdown => rcases after_shutdown (μ := μ) r with h | h <;> rw [h] <;> simp [Holds]

end Phase

/-- What a waiting caller may be told: the answer, that none will come, or the time. -/
def Desk.Tells (d : Desk μ) (k : CallerId) (r : PipelineResult) : Prop :=
  r = .error .timeout ∨ d.reply k = .answered r ∨ d.reply k = .abandoned ∧ r = .error d.gone

/-- The desk with a request in its inbox. -/
def Desk.received (d : Desk μ) (r : Request μ) : Desk μ :=
  { d with inbox := d.inbox ++ [r] }.fill r.caller .pending

/-- A step of a caller. -/
inductive Calls (d : Desk μ) (k : CallerId) : Phase μ → Desk μ → Phase μ → Prop where
  | check {m} : d.lifecycle = .running → Calls d k (.checking m) d (.sending (.flush m))
  | refuse {m} : d.lifecycle ≠ .running → Calls d k (.checking m) d (.done (.error .shutdown))
  | lock : d.lock = none → Calls d k .locking { d with lock := some k } .consulting
  | learn {r} : d.verdict = some r → Calls d k .consulting d.release (.done r)
  | commit : d.verdict = none → Calls d k .consulting d .marking
  | mark : Calls d k .marking (d.mark .draining) (.sending .shutdown)
  | send {order t} : d.hasLeft = false →
      Calls d k (.sending order) (d.received ⟨k, order, t⟩) (.waiting order t)
  | sendOnly {order t} : d.hasLeft = false →
      Calls d k (.sending order) (d.received ⟨k, order, t⟩) (.after order (.error .timeout))
  | fail {order} : d.hasLeft = true → Calls d k (.sending order) d (.after order (.error d.gone))
  | hear {order t r} : d.Tells k r → Calls d k (.waiting order t) d (.after order r)
  | join {r} : d.hasLeft = true → Calls d k (.joining r) (d.mark .stopped) (.concluding r)
  | conclude {r} : Calls d k (.concluding r) (d.conclude r).release (.done r)

/-- The steps of a caller are those that the phases have. -/
theorem Calls.of_step? {d d' : Desk μ} {k timeout now : Nat} {p p' : Phase μ}
    (h : p.step? d k timeout now = some (d', p')) : Calls d k p d' p' := by
  cases p with
  | checking m =>
      simp only [Phase.step?, Option.some.injEq, Prod.mk.injEq] at h
      obtain ⟨rfl, rfl⟩ := h
      split
      next hl => exact .check hl
      next hl => exact .refuse hl
  | locking =>
      simp only [Phase.step?, Desk.acquire?] at h
      split at h
      next hl =>
        simp only [Option.map_some, Option.some.injEq, Prod.mk.injEq] at h
        obtain ⟨rfl, rfl⟩ := h
        exact .lock (by simpa using hl)
      next => simp at h
  | consulting =>
      simp only [Phase.step?] at h
      split at h
      next r hv => cases h; exact .learn hv
      next hv => cases h; exact .commit hv
  | marking => cases h; exact .mark
  | sending order =>
      simp only [Phase.step?, Desk.send?] at h
      split at h
      next d₁ hs =>
        split at hs
        next => cases hs
        next hl =>
          cases hs
          simp only [Option.some.injEq, Prod.mk.injEq] at h
          obtain ⟨rfl, rfl⟩ := h
          split
          · exact .sendOnly (by simpa using hl)
          · exact .send (by simpa using hl)
      next hs =>
        split at hs
        next hl => cases h; exact .fail (by simpa using hl)
        next => cases hs
  | waiting order t =>
      simp only [Phase.step?] at h
      split at h
      next => cases h
      next r hr => cases h; exact .hear (.inr (.inl hr))
      next hr => cases h; exact .hear (.inr (.inr ⟨hr, rfl⟩))
  | joining r =>
      simp only [Phase.step?] at h
      split at h
      next hl => cases h; exact .join (by simpa using hl)
      next => cases h
  | concluding r => cases h; exact .conclude
  | done r => cases h

theorem Calls.of_giveUp? {d : Desk μ} {k : CallerId} {p p' : Phase μ}
    (h : p.giveUp? = some p') : Calls d k p d p' := by
  cases p with
  | waiting order t => cases h; exact .hear (.inl rfl)
  | _ => cases h

/-! ## The front -/

/-- A call: what it asks for, and how far it has got. -/
structure Call (μ : Type) where
  order : Order μ
  phase : Phase μ

/-- A call that begins. -/
def Call.opening (order : Order μ) : Call μ :=
  ⟨order, match order with
    | .flush m => .checking m
    | .shutdown => .locking⟩

/-- A desk, its worker, its callers, and the requests that the worker has taken up so far. -/
structure Front (μ : Type) where
  desk : Desk μ
  status : Status
  callers : CallerId → Option (Call μ)
  handled : List (Request μ)

namespace Front

/-- The front with nobody before it. -/
def opened : Front μ := ⟨.initial, .free, fun _ => none, []⟩

/-- The callers with one of them put in place. -/
def seat (callers : CallerId → Option (Call μ)) (k : CallerId) (c : Call μ) :
    CallerId → Option (Call μ) :=
  fun j => if j = k then some c else callers j

/-- One step of the worker or of a caller, or another caller comes. -/
inductive Step : Front μ → Front μ → Prop where
  | attend {d d' s s' cs hs r} : Attends d s r d' s' →
      Step ⟨d, s, cs, hs⟩ ⟨d', s', cs, hs ++ r.toList⟩
  | come {d s cs hs k order} : cs k = none →
      Step ⟨d, s, cs, hs⟩ ⟨d, s, seat cs k (.opening order), hs⟩
  | call {d d' s cs hs k order p p'} : cs k = some ⟨order, p⟩ → Calls d k p d' p' →
      Step ⟨d, s, cs, hs⟩ ⟨d', s, seat cs k ⟨order, p'⟩, hs⟩

/-- Any number of steps. -/
abbrev Steps : Front μ → Front μ → Prop := Relation.ReflTransGen Step

/-- All requests that were sent and not dropped, oldest first. -/
def requests (f : Front μ) : List (Request μ) := f.handled ++ f.desk.inbox

end Front

end Telemetry.Worker
