import Mathlib.Data.List.Nodup
import Mathlib.Logic.Relation
import Telemetry.Proofs.Context.Frame

/-!
# A task in company

A *routine* is what a wrapped task does: what its next move is, given what its moves have shown so
far.  It attaches contexts, drops guards of its own, reads the current context, wraps futures within
itself and polls them.  Leaving the scope of the task itself is a suspension, and then any thread may
poll the task again.

A *company* is a runtime in which a routine has begun, together with what is the routine's own: its
guards and its scopes.  Everything else in the runtime goes on as it likes, between two polls and on
other threads also during a poll.  Only the scopes of the task are left to the task.

To the task its guards are the first, the second and so on that it has attached, whatever numbers they
have in the runtime.  `Company.view` is the stack of one of its scopes under these names.  What a move
does to the views is said without the rest of the runtime, and this is what makes two companies of
one routine alike.
-/

namespace Telemetry

open StackUse (guards live)

/-! ## Stacks under other names -/

namespace ContextStack

/-- The stack with its guards under other names. -/
def rename (f : GuardId → GuardId) (s : ContextStack) : ContextStack :=
  ⟨s.current, s.saved.map fun e => (f e.1, e.2)⟩

theorem rename_attach (f : GuardId → GuardId) (s : ContextStack) (g : GuardId) (cx : Context) :
    (s.attach g cx).rename f = (s.rename f).attach (f g) cx := rfl

theorem rename_congr {f f' : GuardId → GuardId} {s : ContextStack}
    (h : ∀ g ∈ s.saved.map (·.1), f g = f' g) : s.rename f = s.rename f' := by
  unfold rename
  congr 1
  refine List.map_congr_left fun e he => ?_
  rw [h e.1 (List.mem_map_of_mem he)]

theorem behind?_map {f : GuardId → GuardId} {g : GuardId} {saved : List (GuardId × Context)}
    (h : ∀ k ∈ saved.map (·.1), f k = f g → k = g) :
    behind? (f g) (saved.map fun e => (f e.1, e.2)) =
      (behind? g saved).map fun b => (b.1, b.2.map fun e => (f e.1, e.2)) := by
  induction saved with
  | nil => rfl
  | cons e saved ih =>
      rw [List.map_cons, behind?, behind?]
      by_cases he : e.1 = g
      · rw [if_pos he, if_pos (congrArg f he), Option.map_some]
      · rw [if_neg he, if_neg fun hf => he (h e.1 List.mem_cons_self hf),
          ih fun k hk => h k (List.mem_cons_of_mem _ hk)]

/-- Dropping a guard and renaming may be done in either order, if no other guard gets its name. -/
theorem rename_detach {f : GuardId → GuardId} {g : GuardId} {s : ContextStack}
    (h : ∀ k ∈ s.saved.map (·.1), f k = f g → k = g) :
    ((s.rename f).detach (f g)).1 = (s.detach g).1.rename f := by
  unfold detach
  rw [show (s.rename f).saved = s.saved.map fun e => (f e.1, e.2) from rfl, behind?_map h]
  cases behind? g s.saved with
  | none => rfl
  | some b => rfl

end ContextStack

/-! ## Routines -/

/-- What a task does next.  Its guards and its scopes are counted from zero, its own scope first. -/
inductive Move where
  | read
  | attach (cx : Context)
  | drop (guard : Nat)
  | wrap (cx : Context)
  | enter (scope : Nat)
  /-- Ends the poll of the innermost of its scopes. -/
  | leave

/-- What a wrapped task does. -/
structure Routine where
  /-- The context that it is wrapped with. -/
  start : Context
  /-- The next move, given what the moves before have shown, the last one first. -/
  next : List (Option Context) → Move

/-- A runtime in which a routine has begun. -/
structure Company where
  runtime : Runtime
  /-- What the moves of the routine have shown, the last one first. -/
  seen : List (Option Context)
  /-- The guards that it has attached. -/
  held : List ContextGuard
  /-- Its own scope, and those that it has wrapped futures with. -/
  scopes : List Nat
  /-- Those of its scopes, by their places in the list, that it polls within its own. -/
  path : List Nat
  /-- The thread that polls it. -/
  station : Option Nat

namespace Company

/-- The task is wrapped. -/
def begin (r : Routine) (w : Runtime) : Company :=
  ⟨w.wrap r.start, [], [], [w.execution.nextScope], [], none⟩

def scopeAt (c : Company) (k : Nat) : Nat := c.scopes.getD k 0

/-- The place in the list of the scope that the task is innermost in. -/
def top (c : Company) : Nat := c.path.headD 0

/-- A thread polls the task. -/
def poll (c : Company) (t : Nat) : Company :=
  { c with runtime := c.runtime.enter t (c.scopeAt 0), station := some t }

/-- The company after a move on a thread.  A move that is not possible does nothing. -/
def move (c : Company) (t : Nat) : Move → Company
  | .read => { c with seen := some (c.runtime.current t) :: c.seen }
  | .attach cx =>
    { c with
      runtime := c.runtime.attach t cx
      held := c.held ++ [c.runtime.nextGuard t]
      seen := none :: c.seen }
  | .drop k =>
    match c.held[k]? with
    | none => { c with seen := none :: c.seen }
    | some g => { c with runtime := c.runtime.drop t g, seen := none :: c.seen }
  | .wrap cx =>
    { c with
      runtime := c.runtime.wrap cx
      scopes := c.scopes ++ [c.runtime.execution.nextScope]
      seen := none :: c.seen }
  | .enter k =>
    if 0 < k ∧ k < c.scopes.length ∧ k ∉ c.path then
      { c with runtime := c.runtime.enter t (c.scopeAt k), path := k :: c.path, seen := none :: c.seen }
    else { c with seen := none :: c.seen }
  | .leave =>
    match c.path with
    | [] => { c with runtime := c.runtime.leave t, station := none, seen := none :: c.seen }
    | _ :: rest => { c with runtime := c.runtime.leave t, path := rest, seen := none :: c.seen }

/-- The next move of the routine. -/
def act (r : Routine) (c : Company) (t : Nat) : Company := c.move t (r.next c.seen)

section Moves

variable {c : Company} {t : Nat}

theorem move_drop {j : Nat} {g : ContextGuard} (hj : c.held[j]? = some g) :
    c.move t (.drop j) = { c with runtime := c.runtime.drop t g, seen := none :: c.seen } := by
  simp only [move, hj]

theorem move_drop_of_none {j : Nat} (hj : c.held[j]? = none) :
    c.move t (.drop j) = { c with seen := none :: c.seen } := by
  simp only [move, hj]

theorem move_leave_nil (hp : c.path = []) :
    c.move t .leave =
      { c with runtime := c.runtime.leave t, station := none, seen := none :: c.seen } := by
  simp only [move, hp]

theorem move_leave_cons {k : Nat} {rest : List Nat} (hp : c.path = k :: rest) :
    c.move t .leave =
      { c with runtime := c.runtime.leave t, path := rest, seen := none :: c.seen } := by
  simp only [move, hp]

end Moves

end Company

/-- The thread on which something happens. -/
def Happening.thread? : Happening → Option Nat
  | .spawn | .wrap _ => none
  | .enter t _ | .leave t | .attach t _ | .drop t _ _ => some t

namespace Company

/-- One step in a company: the task is polled, moves, or something else happens, which is not on the
thread that polls the task and does not enter its scopes. -/
inductive Step (r : Routine) (c : Company) : Company → Prop where
  | poll {t} : c.station = none → t < c.runtime.execution.nextThread → Step r c (c.poll t)
  | move {t} : c.station = some t → Step r c (c.act r t)
  | other {e w} : Runtime.Step c.runtime e w → (∀ t, c.station = some t → e.thread? ≠ some t) →
      (∀ t s, e = .enter t s → s ∉ c.scopes) → Step r c { c with runtime := w }

/-- Some steps in a company. -/
def Steps (r : Routine) : Company → Company → Prop := Relation.ReflTransGen (Step r)

/-! ## What is the routine's own -/

def ids (c : Company) : List GuardId := c.held.map (·.id)

/-- The scopes of the task that a thread is in, innermost first. -/
def inside (c : Company) (u : Nat) : List Nat :=
  if c.station = some u then (c.path ++ [0]).map c.scopeAt else []

/-- What holds of every company. -/
structure Sound (c : Company) : Prop where
  runtime : c.runtime.Sound
  opened : ∀ s ∈ c.scopes, s < c.runtime.execution.nextScope
  distinct : c.scopes.Nodup
  main : 0 < c.scopes.length
  path_lt : ∀ k ∈ c.path, 0 < k ∧ k < c.scopes.length
  issued : ∀ g ∈ c.held, ∃ s ∈ c.scopes, c.runtime.Issued g (.scope s)
  unalike : c.ids.Nodup
  /-- The guards on its stacks are its own. -/
  attached : ∀ s ∈ c.scopes, ∀ g ∈ guards (c.runtime.uses (.scope s)), g ∈ c.ids
  awake : ∀ t, c.station = some t → t < c.runtime.execution.nextThread
  asleep : c.station = none → c.path = []
  /-- On every thread its scopes are those that it polls there, and innermost. -/
  polled : ∀ u, ∃ outer, (∀ s ∈ outer, s ∉ c.scopes) ∧ c.runtime.polling u = c.inside u ++ outer

variable {c : Company}

theorem scopeAt_eq {k : Nat} (hk : k < c.scopes.length) : c.scopeAt k = c.scopes[k] := by
  rw [scopeAt, List.getD_eq_getElem?_getD, List.getElem?_eq_getElem hk, Option.getD_some]

theorem scopeAt_mem {k : Nat} (hk : k < c.scopes.length) : c.scopeAt k ∈ c.scopes := by
  rw [scopeAt_eq hk]
  exact List.getElem_mem hk

namespace Sound

theorem scopeAt_inj (h : c.Sound) {j k : Nat} (hj : j < c.scopes.length) (hk : k < c.scopes.length)
    (he : c.scopeAt j = c.scopeAt k) : j = k := by
  rw [scopeAt_eq hj, scopeAt_eq hk] at he
  exact (List.Nodup.getElem_inj_iff h.distinct).mp he

theorem top_lt (h : c.Sound) : c.top < c.scopes.length := by
  have hp := h.path_lt
  unfold top
  cases hc : c.path with
  | nil => exact h.main
  | cons k rest => exact (hp k (hc ▸ List.mem_cons_self)).2

theorem inside_of_station {t : Nat} (ht : c.station = some t) :
    c.inside t = (c.path ++ [0]).map c.scopeAt := if_pos ht

/-- The task moves in the innermost of its scopes. -/
theorem head?_polling (h : c.Sound) {t : Nat} (ht : c.station = some t) :
    (c.runtime.polling t).head? = some (c.scopeAt c.top) := by
  obtain ⟨outer, -, ho⟩ := h.polled t
  rw [ho, inside_of_station ht, top]
  cases c.path <;> rfl

theorem owner_place (h : c.Sound) {t : Nat} (ht : c.station = some t) :
    (c.runtime.place t).owner = .scope (c.scopeAt c.top) := by
  have hh := h.head?_polling ht
  unfold Runtime.place Place.owner
  cases hp : c.runtime.polling t with
  | nil => rw [hp] at hh; cases hh
  | cons s rest =>
      rw [hp] at hh
      rw [Option.some.inj hh]

/-- On a thread that does not poll the task, no scope of the task is seen. -/
theorem head?_ne (h : c.Sound) {u s : Nat} (hu : c.station ≠ some u) (hs : s ∈ c.scopes) :
    (c.runtime.polling u).head? ≠ some s := by
  obtain ⟨outer, hout, ho⟩ := h.polled u
  rw [ho, inside, if_neg hu, List.nil_append]
  exact fun hh => hout s (List.mem_of_head? hh) hs

/-- A scope of the task in which the task is not is free to be entered. -/
theorem not_mem_polling (h : c.Sound) {k : Nat} (hk : k < c.scopes.length)
    (hout : c.station = none ∨ 0 < k ∧ k ∉ c.path) (u : Nat) :
    c.scopeAt k ∉ c.runtime.polling u := by
  obtain ⟨outer, ho, hp⟩ := h.polled u
  rw [hp, List.mem_append, not_or]
  refine ⟨?_, fun hm => ho _ hm (scopeAt_mem hk)⟩
  unfold inside
  split
  next hst =>
    rcases hout with hn | ⟨hpos, hpath⟩
    · rw [hn] at hst
      cases hst
    · intro hm
      obtain ⟨j, hj, he⟩ := List.mem_map.mp hm
      rcases List.mem_append.mp hj with hj | hj
      · exact hpath (h.scopeAt_inj (h.path_lt j hj).2 hk he ▸ hj)
      · rw [List.mem_singleton.mp hj] at he
        exact absurd (h.scopeAt_inj h.main hk he) (Nat.ne_of_lt hpos)
  next => exact List.not_mem_nil

/-! ## Steps keep companies sound -/

section Runtime

variable {e : Happening} {w : Telemetry.Runtime}

theorem opened_step (h : c.Sound) (hs : Runtime.Step c.runtime e w) :
    ∀ s ∈ c.scopes, s < w.execution.nextScope :=
  fun s hm => hs.knows (o := .scope s) (h.opened s hm)

theorem awake_step (h : c.Sound) (hs : Runtime.Step c.runtime e w) :
    ∀ t, c.station = some t → t < w.execution.nextThread :=
  fun t ht => hs.knows (o := .thread t) (h.awake t ht)

theorem issued_step (h : c.Sound) (hs : Runtime.Step c.runtime e w) :
    ∀ g ∈ c.held, ∃ s ∈ c.scopes, w.Issued g (.scope s) := by
  intro g hg
  obtain ⟨s, hm, hslot, hi⟩ := h.issued g hg
  obtain ⟨-, newer, hu⟩ := hs.grows (o := .scope s) (h.opened s hm)
  refine ⟨s, hm, hslot, ?_⟩
  rw [hu, guards, List.filterMap_append]
  exact List.mem_append_right _ hi

end Runtime

theorem begun {w : Runtime} (hw : w.Sound) (r : Routine) : (begin r w).Sound where
  runtime := hw.wrap r.start
  opened s hs := by
    rw [List.mem_singleton.mp hs]
    exact Nat.lt_succ_self _
  distinct := List.nodup_singleton _
  main := Nat.one_pos
  path_lt k hk := nomatch hk
  issued g hg := nomatch hg
  unalike := List.nodup_nil
  attached s hs g hg := by
    rw [List.mem_singleton.mp hs] at hg
    have hno : ¬ w.Knows (.scope w.execution.nextScope) := Nat.lt_irrefl _
    rw [show ((begin r w).runtime.uses _) = _ from (hw.untouched _ hno).1] at hg
    cases hg
  awake t ht := nomatch ht
  asleep _ := rfl
  polled u := by
    refine ⟨w.polling u, fun s hs hm => ?_, rfl⟩
    rw [List.mem_singleton.mp hm] at hs
    exact Nat.lt_irrefl _ (hw.opened u _ hs)

theorem poll (h : c.Sound) {t : Nat} (hst : c.station = none)
    (ht : t < c.runtime.execution.nextThread) : (c.poll t).Sound where
  runtime := h.runtime.enter (h.opened _ (scopeAt_mem h.main)) (h.not_mem_polling h.main (.inl hst))
  opened := h.opened
  distinct := h.distinct
  main := h.main
  path_lt := h.path_lt
  issued := h.issued
  unalike := h.unalike
  attached := h.attached
  awake u hu := by
    rw [← Option.some.inj hu]
    exact ht
  asleep hn := nomatch hn
  polled u := by
    obtain ⟨outer, hout, ho⟩ := h.polled u
    refine ⟨outer, hout, ?_⟩
    have hout : c.runtime.polling u = outer := by
      rw [ho, inside, hst, if_neg (Option.some_ne_none u).symm, List.nil_append]
    unfold inside Company.poll
    rw [Runtime.polling_enter, hout, h.asleep hst]
    by_cases hu : u = t
    · rw [if_pos hu, if_pos (congrArg some hu.symm)]
      rfl
    · rw [if_neg hu, if_neg fun he => hu (Option.some.inj he).symm]
      rfl

/-- What happens elsewhere attaches nothing to the stacks of the task. -/
theorem guards_other (h : c.Sound) {e : Happening} {w : Runtime} (hs : Runtime.Step c.runtime e w)
    (hst : ∀ t, c.station = some t → e.thread? ≠ some t) {s : Nat} (hm : s ∈ c.scopes) :
    guards (w.uses (.scope s)) = guards (c.runtime.uses (.scope s)) := by
  cases hs with
  | spawn | wrap | enter | leave => rfl
  | @attach t cx ht =>
      rw [Runtime.guards_attach, if_neg]
      intro he
      exact h.head?_ne (fun hc => hst t hc rfl) hm (Runtime.owner_place_eq_scope.mp he.symm)
  | drop => rw [Runtime.guards_drop]

theorem other (h : c.Sound) {e : Happening} {w : Runtime} (hs : Runtime.Step c.runtime e w)
    (hst : ∀ t, c.station = some t → e.thread? ≠ some t) (hent : ∀ t s, e = .enter t s → s ∉ c.scopes) :
    ({ c with runtime := w } : Company).Sound where
  runtime := h.runtime.step hs
  opened := h.opened_step hs
  distinct := h.distinct
  main := h.main
  path_lt := h.path_lt
  issued := h.issued_step hs
  unalike := h.unalike
  attached s hm g hg := h.attached s hm g (h.guards_other hs hst hm ▸ hg)
  awake := h.awake_step hs
  asleep := h.asleep
  polled u := by
    obtain ⟨outer, hout, ho⟩ := h.polled u
    have away : ∀ t, e.thread? = some t → c.inside t = [] :=
      fun t he => if_neg fun hc => hst t hc he
    cases hs with
    | spawn | wrap | attach | drop => exact ⟨outer, hout, ho⟩
    | @enter t s _ _ _ =>
        by_cases hu : u = t
        · refine ⟨s :: outer, fun k hk => ?_, ?_⟩
          · rcases List.mem_cons.mp hk with rfl | hk
            · exact hent t k rfl
            · exact hout k hk
          · have hin := away u (hu ▸ rfl)
            show (c.runtime.enter t s).polling u = c.inside u ++ s :: outer
            rw [Runtime.polling_enter, if_pos hu, ho, hin]
            rfl
        · refine ⟨outer, hout, ?_⟩
          show (c.runtime.enter t s).polling u = c.inside u ++ outer
          rw [Runtime.polling_enter, if_neg hu, ho]
    | @leave t _ =>
        by_cases hu : u = t
        · refine ⟨outer.tail, fun k hk => hout k (List.mem_of_mem_tail hk), ?_⟩
          have hin := away u (hu ▸ rfl)
          show (c.runtime.leave t).polling u = c.inside u ++ outer.tail
          rw [Runtime.polling_leave, if_pos hu, ho, hin]
          rfl
        · refine ⟨outer, hout, ?_⟩
          show (c.runtime.leave t).polling u = c.inside u ++ outer
          rw [Runtime.polling_leave, if_neg hu, ho]

/-! ## The moves of the routine -/

section Moves

variable {t : Nat}

theorem nextGuard_not_mem (h : c.Sound) : c.runtime.execution.nextGuard ∉ c.ids := by
  intro hm
  obtain ⟨g, hg, he⟩ := List.mem_map.mp hm
  obtain ⟨s, -, -, hi⟩ := h.issued g hg
  exact Nat.lt_irrefl _ (he ▸ h.runtime.fresh _ _ hi)

theorem attach (h : c.Sound) (ht : c.station = some t) (cx : Context) :
    (c.move t (.attach cx)).Sound := by
  have hs : Runtime.Step c.runtime (.attach t cx) (c.runtime.attach t cx) := .attach (h.awake t ht)
  have howner := h.owner_place ht
  refine
    { runtime := h.runtime.step hs
      opened := h.opened_step hs
      distinct := h.distinct
      main := h.main
      path_lt := h.path_lt
      issued := fun g hg => ?_
      unalike := ?_
      attached := fun s hm g hg => ?_
      awake := h.awake_step hs
      asleep := h.asleep
      polled := h.polled }
  · rcases List.mem_append.mp hg with hg | hg
    · exact h.issued_step hs g hg
    · refine ⟨c.scopeAt c.top, scopeAt_mem h.top_lt, ?_, ?_⟩
      · rw [List.mem_singleton.mp hg, ← howner, Place.slot_owner]
        rfl
      · show g.id ∈ guards ((c.runtime.attach t cx).uses (.scope (c.scopeAt c.top)))
        rw [Runtime.guards_attach, if_pos howner.symm, List.mem_singleton.mp hg]
        exact List.mem_cons_self
  · show (List.map ContextGuard.id (c.held ++ [c.runtime.nextGuard t])).Nodup
    rw [List.map_append, List.nodup_append]
    refine ⟨h.unalike, List.nodup_singleton _, fun a ha b hb => ?_⟩
    rw [List.mem_singleton.mp hb]
    rintro rfl
    exact h.nextGuard_not_mem ha
  · show g ∈ List.map ContextGuard.id (c.held ++ [c.runtime.nextGuard t])
    rw [List.map_append, List.mem_append]
    have hg' : g ∈ guards ((c.runtime.attach t cx).uses (.scope s)) := hg
    rw [Runtime.guards_attach] at hg'
    split at hg'
    next =>
      rcases List.mem_cons.mp hg' with rfl | hg'
      · exact .inr List.mem_cons_self
      · exact .inl (h.attached s hm g hg')
    next => exact .inl (h.attached s hm g hg')

theorem noting (h : c.Sound) (x : Option Context) : ({ c with seen := x :: c.seen } : Company).Sound where
  runtime := h.runtime
  opened := h.opened
  distinct := h.distinct
  main := h.main
  path_lt := h.path_lt
  issued := h.issued
  unalike := h.unalike
  attached := h.attached
  awake := h.awake
  asleep := h.asleep
  polled := h.polled

theorem drop_held (h : c.Sound) (ht : c.station = some t) {g : ContextGuard} (hg : g ∈ c.held) :
    ({ c with runtime := c.runtime.drop t g } : Company).Sound := by
  obtain ⟨k, hk, hi⟩ := h.issued g hg
  have hs : Runtime.Step c.runtime (.drop t g (.scope k)) (c.runtime.drop t g) :=
    .drop (h.awake t ht) hi
  exact
    { runtime := h.runtime.step hs
      opened := h.opened_step hs
      distinct := h.distinct
      main := h.main
      path_lt := h.path_lt
      issued := h.issued_step hs
      unalike := h.unalike
      attached := fun s hm g' hg' => h.attached s hm g' (Runtime.guards_drop t g ▸ hg')
      awake := h.awake_step hs
      asleep := h.asleep
      polled := h.polled }

theorem drop (h : c.Sound) (ht : c.station = some t) (k : Nat) : (c.move t (.drop k)).Sound := by
  cases hk : c.held[k]? with
  | none =>
      rw [move_drop_of_none hk]
      exact h.noting none
  | some g =>
      rw [move_drop hk]
      exact (h.drop_held ht (List.mem_of_getElem? hk)).noting none

theorem scopeAt_wrap {k n : Nat} {xs : List Nat} (hk : k < xs.length) :
    (xs ++ [n]).getD k 0 = xs.getD k 0 := by
  rw [List.getD_eq_getElem?_getD, List.getElem?_append_left hk, List.getD_eq_getElem?_getD]

theorem wrap (h : c.Sound) (cx : Context) : (c.move t (.wrap cx)).Sound := by
  have hs : Runtime.Step c.runtime (.wrap cx) (c.runtime.wrap cx) := .wrap
  refine
    { runtime := h.runtime.step hs
      opened := fun s hm => ?_
      distinct := ?_
      main := ?_
      path_lt := fun k hk => ?_
      issued := fun g hg => ?_
      unalike := h.unalike
      attached := fun s hm g hg => ?_
      awake := h.awake_step hs
      asleep := h.asleep
      polled := fun u => ?_ }
  · rcases List.mem_append.mp hm with hm | hm
    · exact h.opened_step hs s hm
    · rw [List.mem_singleton.mp hm]
      exact Nat.lt_succ_self _
  · refine List.nodup_append.mpr ⟨h.distinct, List.nodup_singleton _, fun a ha b hb => ?_⟩
    rw [List.mem_singleton.mp hb]
    exact Nat.ne_of_lt (h.opened a ha)
  · rw [show (c.move t (.wrap cx)).scopes = c.scopes ++ [_] from rfl, List.length_append]
    exact Nat.add_pos_left h.main _
  · rw [show (c.move t (.wrap cx)).scopes = c.scopes ++ [_] from rfl, List.length_append]
    obtain ⟨hpos, hlt⟩ := h.path_lt k hk
    exact ⟨hpos, Nat.lt_add_right _ hlt⟩
  · obtain ⟨s, hm, hi⟩ := h.issued_step hs g hg
    exact ⟨s, List.mem_append_left _ hm, hi⟩
  · rcases List.mem_append.mp hm with hm | hm
    · exact h.attached s hm g hg
    · have hno : ¬ c.runtime.Knows (.scope s) := by
        rw [List.mem_singleton.mp hm]
        exact Nat.lt_irrefl _
      have hg' : g ∈ guards (c.runtime.uses (.scope s)) := hg
      rw [(h.runtime.untouched _ hno).1] at hg'
      cases hg'
  · obtain ⟨outer, hout, ho⟩ := h.polled u
    refine ⟨outer, fun s hm => ?_, ?_⟩
    · intro hin
      rcases List.mem_append.mp hin with hin | hin
      · exact hout s hm hin
      · have hlt := h.runtime.opened u s (ho ▸ List.mem_append_right _ hm)
        rw [List.mem_singleton.mp hin] at hlt
        exact Nat.lt_irrefl _ hlt
    · have hin : (c.move t (.wrap cx)).inside u = c.inside u := by
        unfold inside
        refine ite_congr rfl (fun _ => List.map_congr_left fun k hk => scopeAt_wrap ?_) fun _ => rfl
        rcases List.mem_append.mp hk with hk | hk
        · exact (h.path_lt k hk).2
        · rw [List.mem_singleton.mp hk]
          exact h.main
      rw [hin]
      exact ho

theorem enter (h : c.Sound) (ht : c.station = some t) (k : Nat) : (c.move t (.enter k)).Sound := by
  unfold move
  dsimp only
  split
  next hk =>
    obtain ⟨hpos, hlt, hpath⟩ := hk
    have hfree := h.not_mem_polling hlt (.inr ⟨hpos, hpath⟩)
    have hs : Runtime.Step c.runtime (.enter t (c.scopeAt k)) (c.runtime.enter t (c.scopeAt k)) :=
      .enter (h.awake t ht) (h.opened _ (scopeAt_mem hlt)) hfree
    exact
      { runtime := h.runtime.step hs
        opened := h.opened
        distinct := h.distinct
        main := h.main
        path_lt := fun j hj => by
          rcases List.mem_cons.mp hj with rfl | hj
          · exact ⟨hpos, hlt⟩
          · exact h.path_lt j hj
        issued := h.issued
        unalike := h.unalike
        attached := h.attached
        awake := h.awake
        asleep := fun hn => by
          rw [show c.station = none from hn] at ht
          cases ht
        polled := fun u => by
          obtain ⟨outer, hout, ho⟩ := h.polled u
          refine ⟨outer, hout, ?_⟩
          unfold inside at ho ⊢
          rw [Runtime.polling_enter, ho]
          by_cases hu : u = t
          · rw [if_pos hu, if_pos (hu ▸ ht), if_pos (hu ▸ ht)]
            rfl
          · have hne : c.station ≠ some u := fun he => hu (Option.some.inj (he.symm.trans ht))
            rw [if_neg hu, if_neg hne, if_neg hne] }
  next => exact h.noting none

theorem leave (h : c.Sound) (ht : c.station = some t) : (c.move t .leave).Sound := by
  have hpolled : ∀ u, ∃ outer, (∀ s ∈ outer, s ∉ c.scopes) ∧ (c.runtime.leave t).polling u =
      (if u = t then (c.path.map c.scopeAt ++ [c.scopeAt 0]).tail else []) ++ outer := by
    intro u
    obtain ⟨outer, hout, ho⟩ := h.polled u
    refine ⟨outer, hout, ?_⟩
    rw [Runtime.polling_leave, ho]
    by_cases hu : u = t
    · rw [if_pos hu, if_pos hu, hu, inside_of_station ht, List.map_append]
      cases c.path <;> rfl
    · have hne : c.station ≠ some u := fun he => hu (Option.some.inj (he.symm.trans ht))
      rw [if_neg hu, if_neg hu, inside, if_neg hne]
  have hs := h.runtime.leave t
  have hlt := h.path_lt
  cases hpath : c.path with
  | nil =>
      rw [hpath] at hpolled
      rw [move_leave_nil hpath]
      exact
        { runtime := hs
          opened := h.opened
          distinct := h.distinct
          main := h.main
          path_lt := h.path_lt
          issued := h.issued
          unalike := h.unalike
          attached := h.attached
          awake := fun u hu => nomatch hu
          asleep := fun _ => hpath
          polled := fun u => by
            obtain ⟨outer, hout, ho⟩ := hpolled u
            refine ⟨outer, hout, ho.trans ?_⟩
            unfold inside
            rw [if_neg (Option.some_ne_none u).symm]
            split <;> rfl }
  | cons k rest =>
      rw [hpath] at hpolled hlt
      rw [move_leave_cons hpath]
      exact
        { runtime := hs
          opened := h.opened
          distinct := h.distinct
          main := h.main
          path_lt := fun j hj => hlt j (List.mem_cons_of_mem _ hj)
          issued := h.issued
          unalike := h.unalike
          attached := h.attached
          awake := h.awake
          asleep := fun hn => by
            rw [show c.station = none from hn] at ht
            cases ht
          polled := fun u => by
            obtain ⟨outer, hout, ho⟩ := hpolled u
            refine ⟨outer, hout, ho.trans ?_⟩
            unfold inside
            by_cases hu : u = t
            · rw [if_pos hu, if_pos (hu ▸ ht), List.map_append]
              rfl
            · have hne : c.station ≠ some u := fun he => hu (Option.some.inj (he.symm.trans ht))
              rw [if_neg hu, if_neg hne] }

theorem move (h : c.Sound) (ht : c.station = some t) (m : Move) : (c.move t m).Sound := by
  cases m with
  | read => exact h.noting _
  | attach cx => exact h.attach ht cx
  | drop k => exact h.drop ht k
  | wrap cx => exact h.wrap cx
  | enter k => exact h.enter ht k
  | leave => exact h.leave ht

end Moves

theorem step {r : Routine} {c' : Company} (h : c.Sound) (hs : Step r c c') : c'.Sound := by
  cases hs with
  | poll hst ht => exact h.poll hst ht
  | move ht => exact h.move ht _
  | other hs hst hent => exact h.other hs hst hent

end Sound

end Company

end Telemetry
