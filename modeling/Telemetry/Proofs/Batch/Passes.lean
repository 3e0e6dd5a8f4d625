import Telemetry.Proofs.Batch.Loops
import Telemetry.Proofs.Batch.Wakeups

/-!
# Passes for full batches

A pass exports full batches as long as there are any.  It has neither a target nor a deadline, and while
it lasts the worker does not look at what is asked of it.

Every export takes a full batch out of the queue, and only producers bring records in.  So a pass of many
exports is one for which many records were accepted (`Passing.fed`), and it ends unless there is no end
to them.  When it ends the worker sleeps, and what wakes it is the oldest request that waits.

If producers bring a full batch in during each export, the pass never ends, and a shutdown that was asked
for waits for ever.
-/

namespace Telemetry.Batch

open Worker (CallerId Desk Request Staffed Office)

variable {ρ : Type} {p : Processor ρ} {now : ℕ}
  {o : ℕ → Office (Account ρ) ℕ} {e : ℕ → Option (Office.Event (Event ρ))} {i j n : ℕ}

/-- A pass that was under way at one moment is so at a later one, after so many exports. -/
structure Passing (o : ℕ → Office (Account ρ) ℕ) (i j n : ℕ) : Prop where
  later : i ≤ j
  activity : (o j).machine.processor.activity = .going .passing
  config : (o j).machine.processor.config = (o i).machine.processor.config
  exports : ∃ xs : List (Export ρ), (o j).machine.deeds = (o i).machine.deeds ++ report xs ∧ xs.length = n ∧
    ∀ x ∈ xs, x.batch.length = (o i).machine.processor.config.maxBatchSize
  popped : (o j).machine.processor.queue.popped =
    (o i).machine.processor.queue.popped + n * (o i).machine.processor.config.maxBatchSize
  pushed : (o i).machine.processor.queue.pushed ≤ (o j).machine.processor.queue.pushed

namespace Passing

theorem refl (hi : (o i).machine.processor.activity = .going .passing) : Passing o i i 0 :=
  ⟨Nat.le_refl i, hi, rfl, ⟨[], (List.append_nil _).symm, rfl, by simp⟩, by omega, Nat.le_refl _⟩

theorem beside (h : Passing o i j n) {l : ℕ} (hjl : j ≤ l) (hb : Beside (o j).machine (o l).machine) :
    Passing o i l n where
  later := Nat.le_trans h.later hjl
  activity := hb.activity.trans h.activity
  config := hb.config.trans h.config
  exports := by rw [hb.deeds]; exact h.exports
  popped := hb.popped.trans h.popped
  pushed := Nat.le_trans h.pushed hb.pushed

theorem round (h : Passing o i j n) {x : Export ρ} {l : ℕ} (hr : Round o j .passing x l)
    (hx : x.batch.length = (o i).machine.processor.config.maxBatchSize) : Passing o i l (n + 1) where
  later := Nat.le_trans h.later (Nat.le_of_lt hr.later)
  activity := hr.activity
  config := hr.config.trans h.config
  exports := by
    obtain ⟨xs, hdeeds, hlength, hall⟩ := h.exports
    refine ⟨xs ++ [x], ?_, by rw [List.length_append, hlength]; rfl, fun y hy => ?_⟩
    · rw [hr.deeds, hdeeds, report_concat]
      simp [report]
    · rcases List.mem_append.1 hy with hy | hy
      · exact hall y hy
      · rw [List.mem_singleton.1 hy, hx]
  popped := by rw [hr.popped, h.popped, hx, Nat.succ_mul, Nat.add_assoc]
  pushed := Nat.le_trans h.pushed hr.pushed

/-- What a pass has exported was in the queue before or was accepted since. -/
theorem fed (h : Passing o i j n) (hi : (o i).Reachable) (hj : (o j).Reachable) :
    n * (o i).machine.processor.config.maxBatchSize + (o j).machine.processor.queue.size =
      (o i).machine.processor.queue.size +
        ((o j).machine.processor.queue.pushed - (o i).machine.processor.queue.pushed) := by
  have hpopped := h.popped
  have hpushed := h.pushed
  have hsize := popped_add_size hi
  have hsize' := popped_add_size hj
  omega

end Passing

/-- The worker tests at a moment whether its pass goes on. -/
structure PassTest (o : ℕ → Office (Account ρ) ℕ) (e : ℕ → Option (Office.Event (Event ρ)))
    (j now : ℕ) : Prop where
  event : e j = some (.inside (.work now))
  activity : (o j).machine.processor.activity = .going .passing

/-- What such a test ends the pass for. -/
def Lacking (p : Processor ρ) : Prop := p.queue.size < p.config.maxBatchSize

/-- After some exports a pass comes to its last test. -/
def PassEnds (o : ℕ → Office (Account ρ) ℕ) (e : ℕ → Option (Office.Event (Event ρ))) (i : ℕ) : Prop :=
  ∃ n j now, Passing o i j n ∧ PassTest o e j now ∧ Lacking (o j).machine.processor

/-- How a pass goes on that is under way at some moment of a run. -/
structure PassRun (o : ℕ → Office (Account ρ) ℕ) (e : ℕ → Option (Office.Event (Event ρ))) (i : ℕ) : Prop where
  /-- A test that finds less than a full batch is the last one.  The worker sleeps, and what wakes it is
  the oldest request, if any waits. -/
  last : ∀ j now, PassTest o e j now → Lacking (o j).machine.processor →
    (o (j + 1)).machine.processor = (o j).machine.processor.sleep now ∧
      ∀ r rest, (o (j + 1)).machine.processor.desk.inbox = r :: rest →
        ∀ t, ∃ q, (o (j + 1)).machine.processor.wake? t = some (q, []) ∧ q.activity = .going (.serving r)
  /-- Any other test is followed by the export of a full batch. -/
  next : ∀ j now, PassTest o e j now → ¬ Lacking (o j).machine.processor →
    ∃ batch, batch.length = (o j).machine.processor.config.maxBatchSize ∧
      (o (j + 1)).machine.processor.activity = .exporting batch .passing
  /-- There are tests until one is the last, each after one more export. -/
  onward : PassEnds o e i ∨
    ∀ n, ∃ j now, Passing o i j n ∧ PassTest o e j now ∧ ¬ Lacking (o j).machine.processor
  /-- So many exports take so many records. -/
  fed : ∀ n j, Passing o i j n →
    n * (o i).machine.processor.config.maxBatchSize + (o j).machine.processor.queue.size =
      (o i).machine.processor.queue.size +
        ((o j).machine.processor.queue.pushed - (o i).machine.processor.queue.pushed)
  /-- One test is the last, if not more and more records are accepted. -/
  timely : (∃ total, ∀ j, (o j).machine.processor.queue.pushed ≤ total) → PassEnds o e i

theorem share_passing_eq_zero_iff (hpos : 0 < p.config.maxBatchSize) (now : ℕ) :
    share p now .passing = 0 ↔ Lacking p := by
  rw [share, Lacking]
  split
  next hl => exact iff_of_true rfl hl
  next hl => exact iff_of_false (Nat.ne_of_gt hpos) hl

theorem share_passing (h : ¬ Lacking p) : share p now .passing = p.config.maxBatchSize := if_neg h

theorem wake?_of_inbox {r : Request ℕ} {rest : List (Request ℕ)} (h : p.desk.inbox = r :: rest) (t : ℕ) :
    p.wake? t = some
      ({ p with desk := { p.desk with inbox := rest }, activity := .going (.serving r) }, []) := by
  simp only [Processor.wake?, List.findSome?_cons, Processor.rouse?, Desk.take?, h]

namespace Unending

theorem pass_last (h : Unending o e) (ht : PassTest o e j now) (hl : Lacking (o j).machine.processor) :
    (o (j + 1)).machine.processor = (o j).machine.processor.sleep now := by
  have hsleep : (o j).machine.processor.advance? now = some ((o j).machine.processor.sleep now, []) := by
    simp only [Processor.advance?, ht.activity, Processor.pass]
    exact congrArg (fun q => some (q, [])) (if_pos hl)
  rw [machine_work h.toRuns ht.event ht.activity hsleep]
  rfl

theorem pass_next (h : Unending o e) (ht : PassTest o e j now) (hl : ¬ Lacking (o j).machine.processor) :
    ∃ batch, batch.length = (o j).machine.processor.config.maxBatchSize ∧
      (o (j + 1)).machine.processor.activity = .exporting batch .passing := by
  have hpos := (h.reachable_at j).sound.valid.batch_pos
  have hs := mt (share_passing_eq_zero_iff hpos now).1 hl
  refine ⟨_, ?_, by rw [machine_work h.toRuns ht.event ht.activity (advance?_of_share ht.activity hs)]; rfl⟩
  rw [length_handOut (share_le_size ..), share_passing hl]

/-- A pass comes to one test after the other until one is the last. -/
theorem pass_tests (h : Unending o e) (hi : (o i).machine.processor.activity = .going .passing)
    (hnever : ¬ PassEnds o e i) (n : ℕ) :
    ∃ j now, Passing o i j n ∧ PassTest o e j now ∧ ¬ Lacking (o j).machine.processor := by
  have hfull (n j now : ℕ) (hp : Passing o i j n) (hj : e j = some (.inside (.work now))) :
      ¬ Lacking (o j).machine.processor :=
    fun hl => hnever ⟨n, j, now, hp, ⟨hj, hp.activity⟩, hl⟩
  -- it is enough that the pass goes on, since the worker does not put its next test off for ever
  have hgoes : ∃ j, Passing o i j n := by
    induction n with
    | zero => exact ⟨i, .refl hi⟩
    | succ n ih =>
        obtain ⟨j, hp⟩ := ih
        obtain ⟨l, now, hjl, hl, hb, hround⟩ := h.round hp.activity
        have hpl := hp.beside hjl hb
        have hpos := (h.reachable_at l).sound.valid.batch_pos
        obtain ⟨x, m, hlm, hr, hx⟩ :=
          hround (mt (share_passing_eq_zero_iff hpos now).1 (hfull n l now hpl hl))
        rw [share_passing (hfull n l now hpl hl), hpl.config] at hx
        exact ⟨m, hp.round hr hx⟩
  obtain ⟨j, hp⟩ := hgoes
  obtain ⟨l, now, hjl, hl, hb, -⟩ := h.round hp.activity
  have hpl := hp.beside hjl hb
  exact ⟨l, now, hpl, ⟨hl, hpl.activity⟩, hfull n l now hpl hl⟩

end Unending

/-- In every run: a pass ends with its first test that finds less than a full batch, and there is one
unless producers feed it for ever. -/
theorem passes_end_unless_fed (h : Unending o e) (hi : (o i).machine.processor.activity = .going .passing) :
    PassRun o e i := by
  have hfed (n j : ℕ) (hp : Passing o i j n) := hp.fed (h.reachable_at i) (h.reachable_at j)
  have honward := or_iff_not_imp_left.2 (h.pass_tests hi)
  refine ⟨fun j now ht hl => ?_, fun j now => h.pass_next, honward, hfed, ?_⟩
  · have hsleep := h.pass_last ht hl
    exact ⟨hsleep, fun r rest hr t => ⟨_, wake?_of_inbox hr t, rfl⟩⟩
  · rintro ⟨total, htotal⟩
    refine honward.resolve_right fun hall => ?_
    -- more exports than there are records
    obtain ⟨j, now, hp, -⟩ := hall ((o i).machine.processor.queue.size + total + 1)
    have hpos := (h.reachable_at i).sound.valid.batch_pos
    have hmany := hfed _ j hp
    have hbound := htotal j
    have hle := Nat.le_mul_of_pos_right ((o i).machine.processor.queue.size + total + 1) hpos
    omega

/-- A full batch was reported, and a flush was asked for.  One more record comes while it is exported. -/
def lull : List (Office.Event (Event ℕ)) :=
  [.inside (.offer 1), .inside (.settle 0), .inside (.offer 2), .inside (.settle 0),
    .inside (.wake .report 0), .flush 7, .step 7 5 0, .step 7 5 0, .inside (.work 0), .inside (.offer 3),
    .inside (.conclude (.returned (.ok ()))), .inside (.work 1)]

/-- The run of a processor in which this happens. -/
def lullDay : ℕ → Office (Account ℕ) ℕ :=
  played (fun i _ => lull[i]?) (.opened (.opened (.start ⟨4, 0, 2, 5⟩ 0)))

theorem passes_end_unless_fed_of_lull :
    ∃ e, Unending lullDay e ∧ (lullDay 5).machine.processor.activity = .going .passing ∧ PassRun lullDay e 5 ∧
      (lullDay 11).machine.processor.activity = .going .passing ∧
      (lullDay 11).machine.processor.queue.items = [3] ∧
      (lullDay 12).machine.processor.activity = .idle ∧
      (lullDay 12).machine.processor.desk.inbox = [⟨7, .flush 2, 5⟩] := by
  obtain ⟨e, h⟩ : ∃ e, Unending lullDay e := by
    refine ⟨_, unending_of_run? lull ⟨_, ⟨⟨4, 0, 2, 5⟩, 0, _, rfl, rfl⟩, .refl⟩ ⟨_, rfl, ?_⟩⟩
    exact id
  have at5 : lullDay 5 = _ := played_of_run? lull 5 (by decide) rfl
  have at11 : lullDay 11 = _ := played_of_run? lull 11 (by decide) rfl
  have at12 : lullDay 12 = _ := played_of_run? lull 12 (by decide) rfl
  have hpass : (lullDay 5).machine.processor.activity = .going .passing := by
    rw [at5]
    rfl
  exact ⟨e, h, hpass, passes_end_unless_fed h hpass, by rw [at11]; rfl, by rw [at11]; rfl, by rw [at12]; rfl,
    by rw [at12]; rfl⟩

/-! ## A pass that never ends -/

/-- A worker whose batches are of one record is at its pass while a shutdown waits in its inbox. -/
structure AtPass (o : Office (Account ℕ) ℕ) (items : List ℕ) (halfway : List Processor.Aftermath)
    (activity : Activity ℕ) : Prop where
  config : o.machine.processor.config = ⟨1, 0, 1, 1⟩
  items : o.machine.processor.queue.items = items
  capacity : o.machine.processor.queue.capacity = 1
  closed : o.machine.processor.queue.closed = false
  halfway : o.machine.halfway = halfway
  activity : o.machine.processor.activity = activity
  inbox : o.machine.processor.desk.inbox = [⟨7, .shutdown, 1⟩]

/-- The turns of a pass: the worker tests and exports, a record is offered and reported, the export ends. -/
def Fed : ℕ → Office (Account ℕ) ℕ → Prop
  | 0, o => AtPass o [0] [] (.going .passing)
  | 1, o => AtPass o [] [] (.exporting [0] .passing)
  | 2, o => AtPass o [0] [.report] (.exporting [0] .passing)
  | _, o => AtPass o [0] [] (.exporting [0] .passing)

/-- What happens in each turn. -/
def feed (now : ℕ) : ℕ → Office.Event (Event ℕ)
  | 0 => .inside (.work now)
  | 1 => .inside (.offer 0)
  | 2 => .inside (.settle 0)
  | _ => .inside (.conclude (.returned (.ok ())))

/-- One turn after the other, while time goes on. -/
def feeding (i : ℕ) (_ : Office (Account ℕ) ℕ) : Option (Office.Event (Event ℕ)) := some (feed i (i % 4))

theorem Fed.next {k : ℕ} {o : Office (Account ℕ) ℕ} (hk : k < 4) (h : Fed k o) (now : ℕ) :
    (o.perform? (feed now k)).isSome ∧ Fed ((k + 1) % 4) (attempt o (some (feed now k))) := by
  obtain ⟨⟨⟨_, ⟨_, _, _, _, _⟩, _, _, ⟨_, _, _, _, _, _⟩, _, _, _⟩, _, _, _, _, _⟩, _, _⟩ := o
  match k with
  | 0 | 1 | 2 | 3 =>
      obtain ⟨rfl, rfl, rfl, rfl, rfl, rfl, rfl⟩ := h
      exact ⟨rfl, rfl, rfl, rfl, rfl, rfl, rfl, rfl⟩

theorem Fed.passing {k : ℕ} {o : Office (Account ℕ) ℕ} (h : Fed k o) :
    o.machine.processor.activity.IsPassing ∧ o.machine.processor.desk.inbox = [⟨7, .shutdown, 1⟩] := by
  unfold Fed at h
  split at h <;> exact ⟨by rw [h.activity]; trivial, h.inbox⟩

/-- The first record has been reported, and a shutdown was asked for before the worker has tested. -/
theorem exists_fed : ∃ o : Office (Account ℕ) ℕ, o.Reachable ∧ Fed 0 o :=
  ⟨_, ⟨.opened (.start ⟨1, 0, 1, 1⟩ 0), ⟨⟨1, 0, 1, 1⟩, 0, _, rfl, rfl⟩,
    Office.steps_of_run? [.inside (.offer 0), .inside (.settle 0), .inside (.wake .report 0), .shutdown 7,
      .step 7 1 0, .step 7 1 0, .step 7 1 0, .step 7 1 0] rfl⟩, rfl, rfl, rfl, rfl, rfl, rfl, rfl⟩

section

variable {start : Office (Account ℕ) ℕ}

theorem fed_played (h : Fed 0 start) (i : ℕ) : Fed (i % 4) (played feeding start i) := by
  induction i with
  | zero => exact h
  | succ i ih =>
      have hnext := (ih.next (Nat.mod_lt i (by decide)) i).2
      rw [Nat.mod_add_mod] at hnext
      exact hnext

theorem unending_fed (hr : start.Reachable) (h : Fed 0 start) :
    Unending (played feeding start) (playing feeding start) where
  toRuns := runs_played _ _
  reachable := hr
  fair i _ := by
    -- the worker tests in every fourth turn
    have hzero : 4 * i % 4 = 0 := Nat.mul_mod_right 4 i
    have hf := fed_played h (4 * i)
    rw [hzero] at hf
    have hpossible := (hf.next (by decide) (4 * i)).1
    refine ⟨4 * i, by omega, .work (4 * i), ?_, trivial⟩
    rw [playing, feeding, hzero]
    exact Option.filter_eq_some_iff.2 ⟨rfl, hpossible⟩

end

/-- The worker is at its pass for ever, and for ever a shutdown waits in its inbox. -/
theorem fed_pass_never_ends :
    ∃ (o : ℕ → Office (Account ℕ) ℕ) (e : ℕ → Option (Office.Event (Event ℕ))), Unending o e ∧
      (o 0).machine.processor.activity = .going .passing ∧
      ∀ j, (o j).machine.processor.activity.IsPassing ∧
        (o j).machine.processor.desk.inbox = [⟨7, .shutdown, 1⟩] := by
  obtain ⟨start, hr, h⟩ := exists_fed
  exact ⟨_, _, unending_fed hr h, AtPass.activity h, fun j => (fed_played h j).passing⟩

end Telemetry.Batch
