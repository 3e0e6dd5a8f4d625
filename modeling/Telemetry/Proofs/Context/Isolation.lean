import Telemetry.Proofs.Context.Company

/-!
# Isolation

Two companies of one routine mirror each other when the routine has seen the same in both and its
stacks are the same under its own names.  A move keeps them alike, since all that it does to the views
is given by the views, and what happens elsewhere changes no view at all.  So any company mirrors the
one in which the routine is alone, and the routine reads the same contexts there
(`seen_eq_alone`).

`Runtime.Isolated` puts together what holds of the current contexts of threads and tasks.
-/

namespace Telemetry

namespace Company

open StackUse (guards live)

variable {c d : Company} {t u : Nat}

/-! ## Views -/

/-- The stack of a scope of the task. -/
def stackAt (c : Company) (k : Nat) : ContextStack := c.runtime.execution.stack (.scope (c.scopeAt k))

/-- The stack of a scope of the task, with the task's names for its guards. -/
def view (c : Company) (k : Nat) : ContextStack := (c.stackAt k).rename (c.ids.idxOf ·)

namespace Sound

theorem mem_ids_of_saved (h : c.Sound) {k : Nat} (hk : k < c.scopes.length) {g : GuardId}
    (hg : g ∈ (c.stackAt k).saved.map (·.1)) : g ∈ c.ids := by
  rw [stackAt, h.runtime.stack_eq, ContextStack.guards_after] at hg
  exact h.attached _ (scopeAt_mem hk) g ((StackUse.live_sublist _).subset hg)

theorem scope_eq_top_iff (h : c.Sound) {k : Nat} (hk : k < c.scopes.length) :
    Owner.scope (c.scopeAt k) = .scope (c.scopeAt c.top) ↔ k = c.top :=
  ⟨fun he => h.scopeAt_inj hk h.top_lt (Owner.scope.inj he), fun he => by rw [he]⟩

/-- The task reads the context of the innermost of its scopes. -/
theorem current_eq (h : c.Sound) (ht : c.station = some t) :
    c.runtime.current t = (c.view c.top).current := by
  rw [Runtime.current, Execution.current, h.owner_place ht]
  rfl

theorem view_attach (h : c.Sound) (ht : c.station = some t) (cx : Context) {k : Nat}
    (hk : k < c.scopes.length) : (c.move t (.attach cx)).view k =
      if k = c.top then (c.view k).attach c.held.length cx else c.view k := by
  have hids : (c.move t (.attach cx)).ids = c.ids ++ [c.runtime.execution.nextGuard] :=
    List.map_append
  have hold : (c.stackAt k).rename ((c.move t (.attach cx)).ids.idxOf ·) = c.view k := by
    refine ContextStack.rename_congr fun g hg => ?_
    rw [hids, List.idxOf_append_of_mem (h.mem_ids_of_saved hk hg)]
  have hstack : (c.move t (.attach cx)).stackAt k = if k = c.top
      then (c.stackAt k).attach c.runtime.execution.nextGuard cx else c.stackAt k := by
    show (c.runtime.attach t cx).execution.stack (.scope (c.scopeAt k)) = _
    rw [Runtime.stack_attach, h.owner_place ht]
    exact if_congr (h.scope_eq_top_iff hk) rfl rfl
  rw [view, hstack]
  split
  next =>
    have hnew : (c.move t (.attach cx)).ids.idxOf c.runtime.execution.nextGuard = c.held.length := by
      rw [hids, List.idxOf_append_of_notMem h.nextGuard_not_mem, List.idxOf_cons_self, Nat.add_zero,
        ids, List.length_map]
    rw [ContextStack.rename_attach, hold, hnew]
  next => exact hold

theorem view_drop (h : c.Sound) (ht : c.station = some t) {j : Nat} {g : ContextGuard}
    (hj : c.held[j]? = some g) {k : Nat} (hk : k < c.scopes.length) :
    (c.move t (.drop j)).view k = if k = c.top then ((c.view k).detach j).1 else c.view k := by
  have hmove : c.move t (.drop j) = _ := move_drop hj
  obtain ⟨hlt, hg⟩ := List.getElem?_eq_some_iff.mp hj
  have hslot : g.slot = .scope := by
    obtain ⟨s, -, hi⟩ := h.issued g (List.mem_of_getElem? hj)
    exact hi.1
  have hstack : (c.move t (.drop j)).stackAt k =
      if k = c.top then ((c.stackAt k).detach g.id).1 else c.stackAt k := by
    rw [hmove]
    show (c.runtime.drop t g).execution.stack (.scope (c.scopeAt k)) = _
    rw [Runtime.stack_drop]
    refine if_congr ?_ rfl rfl
    rw [Runtime.ownerOf?_scope hslot, h.head?_polling ht, Option.some.injEq, eq_comm]
    exact ⟨fun he => h.scopeAt_inj hk h.top_lt he, fun he => by rw [he]⟩
  have hids : (c.move t (.drop j)).ids = c.ids := by rw [hmove]; rfl
  rw [view, hstack, hids]
  split
  next =>
    have hname : c.ids.idxOf g.id = j := by
      have hlt' : j < c.ids.length := by rwa [ids, List.length_map]
      have hget : c.ids[j] = g.id := by simp only [ids, List.getElem_map, hg]
      rw [← hget, h.unalike.idxOf_getElem]
    rw [← ContextStack.rename_detach, hname]
    · rfl
    · exact fun i hi he => (List.idxOf_inj (h.mem_ids_of_saved hk hi)).mp he
  next => rfl

theorem view_wrap (h : c.Sound) (cx : Context) {k : Nat} (hk : k < c.scopes.length) :
    (c.move t (.wrap cx)).view k = c.view k := by
  have hstack : (c.move t (.wrap cx)).stackAt k = c.stackAt k := by
    show (c.runtime.wrap cx).execution.stack (.scope ((c.scopes ++ [_]).getD k 0)) = _
    rw [scopeAt_wrap hk, Runtime.stack_wrap, if_neg]
    · rfl
    · intro he
      exact Nat.ne_of_lt (h.opened _ (scopeAt_mem hk)) (Owner.scope.inj he)
  rw [view, hstack]
  rfl

theorem view_wrapped (cx : Context) : (c.move t (.wrap cx)).view c.scopes.length = .starting cx := by
  have hlast : (c.move t (.wrap cx)).scopeAt c.scopes.length = c.runtime.execution.nextScope := by
    show (c.scopes ++ [_]).getD c.scopes.length 0 = _
    rw [List.getD_eq_getElem?_getD, List.getElem?_concat_length, Option.getD_some]
  rw [view, stackAt, hlast]
  show ((c.runtime.wrap cx).execution.stack _).rename _ = _
  rw [Runtime.stack_wrap, if_pos rfl]
  rfl

/-- What happens elsewhere changes no view. -/
theorem view_other (h : c.Sound) {e : Happening} {w : Runtime} (hs : Runtime.Step c.runtime e w)
    (hst : ∀ t, c.station = some t → e.thread? ≠ some t) {k : Nat} (hk : k < c.scopes.length) :
    ({ c with runtime := w } : Company).view k = c.view k := by
  have hm := scopeAt_mem hk
  have hstack : w.execution.stack (.scope (c.scopeAt k)) = c.stackAt k := by
    cases hs with
    | spawn | enter | leave => rfl
    | wrap =>
        rw [Runtime.stack_wrap, if_neg]
        · rfl
        · intro he
          exact Nat.ne_of_lt (h.opened _ hm) (Owner.scope.inj he)
    | attach =>
        rw [Runtime.stack_attach, if_neg]
        · rfl
        · intro he
          exact h.head?_ne (fun hc => hst _ hc rfl) hm (Runtime.owner_place_eq_scope.mp he.symm)
    | drop =>
        rw [Runtime.stack_drop, if_neg]
        · rfl
        · intro he
          exact h.head?_ne (fun hc => hst _ hc rfl) hm
            ((Runtime.ownerOf?_scope (Place.ownerOf?_eq_some he).symm).mp he)
  show (w.execution.stack (.scope (c.scopeAt k))).rename _ = _
  rw [hstack]
  rfl

end Sound

/-! ## Mirrors -/

/-- Two companies are the same to their routine. -/
structure Mirrors (c d : Company) : Prop where
  seen : c.seen = d.seen
  path : c.path = d.path
  scopes : c.scopes.length = d.scopes.length
  held : c.held.length = d.held.length
  view : ∀ k, k < c.scopes.length → c.view k = d.view k

namespace Mirrors

theorem top (h : Mirrors c d) : c.top = d.top := by rw [Company.top, Company.top, h.path]

theorem noting (h : Mirrors c d) (x : Option Context) :
    Mirrors { c with seen := x :: c.seen } { d with seen := x :: d.seen } where
  seen := congrArg (x :: ·) h.seen
  path := h.path
  scopes := h.scopes
  held := h.held
  view := h.view

theorem attach (h : Mirrors c d) (hc : c.Sound) (hd : d.Sound) (ht : c.station = some t)
    (hu : d.station = some u) (cx : Context) :
    Mirrors (c.move t (.attach cx)) (d.move u (.attach cx)) where
  seen := congrArg (none :: ·) h.seen
  path := h.path
  scopes := h.scopes
  held := by
    show (c.held ++ [_]).length = (d.held ++ [_]).length
    rw [List.length_append, List.length_append, h.held]
    rfl
  view k hk := by
    have hk' : k < c.scopes.length := hk
    rw [hc.view_attach ht cx hk', hd.view_attach hu cx (h.scopes ▸ hk'), h.view k hk', h.top, h.held]

theorem drop (h : Mirrors c d) (hc : c.Sound) (hd : d.Sound) (ht : c.station = some t)
    (hu : d.station = some u) (j : Nat) : Mirrors (c.move t (.drop j)) (d.move u (.drop j)) := by
  by_cases hj : j < c.held.length
  · have hcj := List.getElem?_eq_getElem hj
    have hdj := List.getElem?_eq_getElem (h.held ▸ hj : j < d.held.length)
    have hview : ∀ k, k < c.scopes.length →
        (c.move t (.drop j)).view k = (d.move u (.drop j)).view k := by
      intro k hk
      rw [hc.view_drop ht hcj hk, hd.view_drop hu hdj (h.scopes ▸ hk), h.view k hk, h.top]
    rw [move_drop hcj, move_drop hdj] at hview ⊢
    exact ⟨congrArg (none :: ·) h.seen, h.path, h.scopes, h.held, hview⟩
  · have hcj : c.held[j]? = none := List.getElem?_eq_none (Nat.le_of_not_lt hj)
    have hdj : d.held[j]? = none := List.getElem?_eq_none (h.held ▸ Nat.le_of_not_lt hj)
    rw [move_drop_of_none hcj, move_drop_of_none hdj]
    exact h.noting none

theorem wrap (h : Mirrors c d) (hc : c.Sound) (hd : d.Sound) (cx : Context) :
    Mirrors (c.move t (.wrap cx)) (d.move u (.wrap cx)) where
  seen := congrArg (none :: ·) h.seen
  path := h.path
  scopes := by
    show (c.scopes ++ [_]).length = (d.scopes ++ [_]).length
    rw [List.length_append, List.length_append, h.scopes]
    rfl
  held := h.held
  view k hk := by
    have hk' : k < c.scopes.length + 1 := by
      have he : (c.move t (.wrap cx)).scopes.length = c.scopes.length + 1 := List.length_append
      rwa [he] at hk
    rcases Nat.lt_succ_iff_lt_or_eq.mp hk' with hlt | rfl
    · rw [hc.view_wrap cx hlt, hd.view_wrap cx (h.scopes ▸ hlt), h.view k hlt]
    · rw [Sound.view_wrapped, h.scopes, Sound.view_wrapped]

theorem enter (h : Mirrors c d) (k : Nat) : Mirrors (c.move t (.enter k)) (d.move u (.enter k)) := by
  have hcond : (0 < k ∧ k < c.scopes.length ∧ k ∉ c.path) =
      (0 < k ∧ k < d.scopes.length ∧ k ∉ d.path) := by
    rw [h.scopes, h.path]
  unfold Company.move
  dsimp only
  by_cases hk : 0 < k ∧ k < c.scopes.length ∧ k ∉ c.path
  · rw [if_pos hk, if_pos (hcond ▸ hk)]
    exact ⟨congrArg (none :: ·) h.seen, congrArg (k :: ·) h.path, h.scopes, h.held, h.view⟩
  · rw [if_neg hk, if_neg (hcond ▸ hk)]
    exact h.noting none

theorem leave (h : Mirrors c d) : Mirrors (c.move t .leave) (d.move u .leave) := by
  have hpath := h.path
  cases hc : c.path with
  | nil =>
      have hd : d.path = [] := hpath ▸ hc
      rw [move_leave_nil hc, move_leave_nil hd]
      exact ⟨congrArg (none :: ·) h.seen, h.path, h.scopes, h.held, h.view⟩
  | cons k rest =>
      have hd : d.path = k :: rest := hpath ▸ hc
      rw [move_leave_cons hc, move_leave_cons hd]
      exact ⟨congrArg (none :: ·) h.seen, rfl, h.scopes, h.held, h.view⟩

/-- A move keeps two companies alike. -/
theorem move (h : Mirrors c d) (hc : c.Sound) (hd : d.Sound) (ht : c.station = some t)
    (hu : d.station = some u) (m : Move) : Mirrors (c.move t m) (d.move u m) := by
  cases m with
  | read =>
      have hread : c.runtime.current t = d.runtime.current u := by
        rw [hc.current_eq ht, hd.current_eq hu, h.view _ hc.top_lt, h.top]
      unfold Company.move
      dsimp only
      rw [hread]
      exact h.noting _
  | attach cx => exact h.attach hc hd ht hu cx
  | drop j => exact h.drop hc hd ht hu j
  | wrap cx => exact h.wrap hc hd cx
  | enter k => exact h.enter k
  | leave => exact h.leave

end Mirrors

end Company

/-! ## Alone -/

/-- The company after one more move, when nobody else does anything.  The main thread polls the task
when it is not polled. -/
def Company.onward (r : Routine) (c : Company) : Company :=
  match c.station with
  | some t => c.act r t
  | none => (c.poll Execution.mainThread).act r Execution.mainThread

/-- The company of a routine alone after some moves. -/
def Routine.alone (r : Routine) : Nat → Company
  | 0 => .begin r .initial
  | n + 1 => (r.alone n).onward r

namespace Company

variable {r : Routine} {c d : Company} {t : Nat}

theorem seen_move (c : Company) (t : Nat) (m : Move) : ∃ x, (c.move t m).seen = x :: c.seen := by
  cases m with
  | read | attach | wrap => exact ⟨_, rfl⟩
  | drop | enter | leave =>
      unfold move
      dsimp only
      split <;> exact ⟨_, rfl⟩

theorem nextThread_move (c : Company) (t : Nat) (m : Move) :
    (c.move t m).runtime.execution.nextThread = c.runtime.execution.nextThread := by
  cases m with
  | read | attach | wrap => rfl
  | enter | leave =>
      unfold move
      dsimp only
      split <;> rfl
  | drop =>
      unfold move
      dsimp only
      split
      next => rfl
      next => exact (Runtime.counters_drop _ _).2.2

theorem Steps.sound {w : Runtime} (hw : w.Sound) (h : Steps r (begin r w) c) : c.Sound := by
  induction h with
  | refl => exact .begun hw r
  | tail _ hs ih => exact ih.step hs

theorem nextThread_onward (r : Routine) (c : Company) :
    (c.onward r).runtime.execution.nextThread = c.runtime.execution.nextThread := by
  unfold onward
  split <;> exact nextThread_move ..

end Company

namespace Routine

variable (r : Routine)

theorem nextThread_alone (n : Nat) : (r.alone n).runtime.execution.nextThread = 1 := by
  induction n with
  | zero => rfl
  | succ n ih => rw [alone, Company.nextThread_onward, ih]

/-- To be alone is one of the ways in which things can go on. -/
theorem alone_steps (n : Nat) : Company.Steps r (.begin r .initial) (r.alone n) := by
  induction n with
  | zero => exact .refl
  | succ n ih =>
      rw [alone, Company.onward]
      cases hst : (r.alone n).station with
      | some t => exact ih.tail (.move hst)
      | none =>
          have hk : Execution.mainThread < (r.alone n).runtime.execution.nextThread := by
            rw [r.nextThread_alone n]
            exact Nat.one_pos
          exact (ih.tail (.poll hst hk)).tail (.move rfl)

theorem alone_sound (n : Nat) : (r.alone n).Sound := (r.alone_steps n).sound .initial

end Routine

namespace Company

variable {r : Routine} {c d : Company} {t : Nat} {w : Runtime}

/-- A poll changes no view. -/
theorem Mirrors.poll (h : Mirrors c d) (t : Nat) : Mirrors (c.poll t) d :=
  ⟨h.seen, h.path, h.scopes, h.held, h.view⟩

theorem Mirrors.symm (h : Mirrors c d) : Mirrors d c where
  seen := h.seen.symm
  path := h.path.symm
  scopes := h.scopes.symm
  held := h.held.symm
  view k hk := (h.view k (h.scopes ▸ hk)).symm

theorem Mirrors.onward (h : Mirrors c d) (hc : c.Sound) (hd : d.Sound) (ht : c.station = some t)
    (hk : Execution.mainThread < d.runtime.execution.nextThread) :
    Mirrors (c.act r t) (d.onward r) := by
  unfold Company.onward act
  rw [h.seen]
  cases hst : d.station with
  | some u => exact h.move hc hd ht hst _
  | none => exact ((h.symm.poll _).symm).move hc (hd.poll hst hk) ht rfl _

/-- Every company mirrors the one in which the routine is alone. -/
theorem mirrors_alone (hw : w.Sound) (h : Steps r (begin r w) c) :
    Mirrors c (r.alone c.seen.length) := by
  induction h with
  | refl =>
      refine ⟨rfl, rfl, rfl, rfl, fun k hk => ?_⟩
      have hk : k = 0 := Nat.lt_one_iff.mp hk
      subst hk
      show ((w.wrap r.start).execution.stack _).rename _ =
        ((Runtime.initial.wrap r.start).execution.stack _).rename _
      rw [Runtime.stack_wrap, Runtime.stack_wrap, if_pos, if_pos]
      · rfl
      · rfl
      · rfl
  | @tail c c' hs hstep ih =>
      have hc : c.Sound := Steps.sound hw hs
      cases hstep with
      | poll => exact ih.poll _
      | @move t ht =>
          obtain ⟨x, hx⟩ := seen_move c t (r.next c.seen)
          rw [act, hx, List.length_cons, Routine.alone]
          refine ih.onward hc (r.alone_sound _) ht ?_
          rw [r.nextThread_alone]
          exact Nat.one_pos
      | other hs hst _ =>
          exact ⟨ih.seen, ih.path, ih.scopes, ih.held,
            fun k hk => (hc.view_other hs hst hk).trans (ih.view k hk)⟩

/-- In any company a routine reads what it reads alone. -/
theorem seen_eq_alone (hw : w.Sound) (h : Steps r (begin r w) c) :
    c.seen = (r.alone c.seen.length).seen := (mirrors_alone hw h).seen

end Company

/-! ## Isolated contexts -/

namespace Runtime

open StackUse (live)

/-- How far the current contexts of a runtime are apart. -/
structure Isolated (w : Runtime) : Prop where
  /-- An attaching changes the stack of the innermost scope, or outside all scopes that of the
  thread. -/
  attach : ∀ t cx o, (w.attach t cx).execution.stack o ≠ w.execution.stack o →
    o = match w.polling t with
      | [] => .thread t
      | s :: _ => .scope s
  /-- A drop changes the stack on which the guard was attached. -/
  drop : ∀ t g home o, w.Issued g home → (w.drop t g).execution.stack o ≠ w.execution.stack o →
    o = home
  /-- A live guard of a scope is found where that scope is the innermost one. -/
  ofScope : ∀ t g s, w.Issued g (.scope s) → (w.dropped t g ≠ .notFound ↔
    (w.polling t).head? = some s ∧ g.id ∈ (live (w.uses (.scope s))).map (·.1))
  /-- A live guard of a thread is found on that thread, whatever scopes it is in. -/
  ofThread : ∀ t g u, w.Issued g (.thread u) → (w.dropped t g ≠ .notFound ↔
    t = u ∧ g.id ∈ (live (w.uses (.thread u))).map (·.1))
  /-- A guard that is not found changes nothing. -/
  unfound : ∀ t g, w.dropped t g = .notFound → (w.drop t g).execution = w.execution
  /-- While a thread polls a wrapped task, the stacks outside of its scope stay as they are, unless a
  guard of the thread's own stack is dropped inside. -/
  polled : ∀ t s w₁, Step w (.enter t s) w₁ → ∀ es w₂, Poll t (s :: w.polling t) w₁ es w₂ →
    ∀ o, Outside t (w.polling t) o → (∀ g, o = .thread t → .drop t g o ∉ es) →
    w₂.execution.stack o = w.execution.stack o
  /-- A task that is wrapped now reads what it reads alone, whatever happens around it. -/
  routine : ∀ r c, Company.Steps r (.begin r w) c → c.seen = (r.alone c.seen.length).seen

variable {w : Runtime}

theorem Sound.polled (h : w.Sound) {t s : Nat} {w₁ w₂ : Runtime} {es : List Happening} {o : Owner}
    (hs : Step w (.enter t s) w₁) (hp : Poll t (s :: w.polling t) w₁ es w₂)
    (ho : Outside t (w.polling t) o) (hd : ∀ g, o = .thread t → .drop t g o ∉ es) :
    w₂.execution.stack o = w.execution.stack o := by
  have h₁ := h.step hs
  cases hs with
  | enter ht hsc hfree =>
      have hpoll : (w.enter t s).polling t = s :: w.polling t := (polling_enter t s t).trans (if_pos rfl)
      have hb : s :: w.polling t <:+ (w.enter t s).polling t := ⟨[], hpoll.symm⟩
      have hk : w.Knows o := by
        cases o with
        | thread u =>
            have hu : u = t := ho
            exact hu ▸ ht
        | scope k => exact h.opened t k ho
      exact hp.outside h₁ hb ho hk hd

theorem contexts_isolated (h : w.Reachable) : w.Isolated where
  attach t cx o hne := by
    by_contra ho
    refine hne ?_
    rw [stack_attach, if_neg]
    exact ho
  drop t g home o hi hne := by
    by_contra ho
    exact hne (stack_drop_of_ne h.sound hi ho)
  ofScope t g s hi := by rw [dropped_ne_notFound_iff h.sound hi, ownerOf?_scope hi.1]
  ofThread t g u hi := by rw [dropped_ne_notFound_iff h.sound hi, ownerOf?_thread hi.1]
  unfound t g hd := execution_drop_of_notFound hd
  polled t s w₁ hs es w₂ hp o ho hd := h.sound.polled hs hp ho hd
  routine r c hs := Company.seen_eq_alone h.sound hs

/-- One thread has a guard of its own, the other has attached in a scope.  Neither finds the guard of
the other. -/
theorem contexts_isolated_of_two_threads :
    ∃ w : Runtime, w.Isolated ∧ w.polling 1 = [0] ∧
      w.Issued ⟨0, .thread⟩ (.thread 0) ∧ w.Issued ⟨1, .scope⟩ (.scope 0) ∧
      w.dropped 0 ⟨1, .scope⟩ = .notFound ∧ w.dropped 1 ⟨0, .thread⟩ = .notFound ∧
      w.dropped 1 ⟨1, .scope⟩ ≠ .notFound ∧ w.dropped 0 ⟨0, .thread⟩ ≠ .notFound := by
  obtain ⟨w, h, h₀, h₁, hthread, hscope, hlive₀, hlive₁⟩ : ∃ w : Runtime, w.Reachable ∧
      w.polling 0 = [] ∧ w.polling 1 = [0] ∧
      w.Issued ⟨0, .thread⟩ (.thread 0) ∧ w.Issued ⟨1, .scope⟩ (.scope 0) ∧
      0 ∈ (live (w.uses (.thread 0))).map (·.1) ∧ 1 ∈ (live (w.uses (.scope 0))).map (·.1) :=
    ⟨((((initial.attach 0 (Context.empty.withSpan .invalid)).spawn).wrap .empty).enter 1 0).attach 1
        (Context.empty.withBaggage .empty),
      ⟨_, ((((Run.none.step (.attach (by decide))).step .spawn).step .wrap).step
        (.enter (by decide) (by decide) (fun _ => List.not_mem_nil))).step (.attach (by decide))⟩,
      rfl, rfl, ⟨rfl, by decide⟩, ⟨rfl, by decide⟩, by decide, by decide⟩
  have isolated := contexts_isolated h
  refine ⟨w, isolated, h₁, hthread, hscope, ?_, ?_, ?_, ?_⟩
  · refine not_not.mp fun hd => absurd ((isolated.ofScope 0 _ 0 hscope).mp hd).1 ?_
    rw [h₀]
    exact (Option.some_ne_none 0).symm
  · exact not_not.mp fun hd => absurd ((isolated.ofThread 1 _ 0 hthread).mp hd).1 (by decide)
  · exact (isolated.ofScope 1 _ 0 hscope).mpr ⟨congrArg List.head? h₁, hlive₁⟩
  · exact (isolated.ofThread 0 _ 0 hthread).mpr ⟨rfl, hlive₀⟩

end Runtime

end Telemetry
