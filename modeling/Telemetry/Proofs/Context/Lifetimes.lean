import Telemetry.Context.Execution

/-!
# Lifetimes of guards

A guard is live from its attaching until it is dropped, or until a guard is dropped that was attached
before it on the same stack.  This is said of the uses of a stack alone, without a word about what the
stack saves: `StackUse.live` reads a history and gives the live guards with the contexts that they
have attached.

A stack forgets everything else.  After any uses it is the stack on which the live guards were
attached, one after the other, and nothing was ever dropped (`after_eq_built`).  From this all follows
that a drop can do: it gives back the stack as it was before the attaching of its guard, provided that
the guard is live, and else changes nothing.
-/

namespace Telemetry

/-- What can be done with a stack. -/
inductive StackUse where
  | attach (guard : GuardId) (cx : Context)
  | drop (guard : GuardId)

namespace StackUse

/-! ## Histories

The newest use is in front, and so is the newest guard. -/

def attached? : StackUse → Option GuardId
  | .attach g _ => some g
  | .drop _ => none

/-- The guards that were attached. -/
def guards (us : List StackUse) : List GuardId := us.filterMap attached?

/-- What is left of the live guards when one is dropped: those attached before it.  A guard that is
not live takes nothing along. -/
def ended (g : GuardId) (live : List (GuardId × Context)) : List (GuardId × Context) :=
  if g ∈ live.map (·.1) then (live.dropWhile (·.1 != g)).tail else live

/-- The live guards, each with the context that it has attached. -/
def live : List StackUse → List (GuardId × Context)
  | [] => []
  | .attach g cx :: older => (g, cx) :: live older
  | .drop g :: older => ended g (live older)

theorem ended_cons_self (g : GuardId) (cx : Context) (l : List (GuardId × Context)) :
    ended g ((g, cx) :: l) = l := by
  simp [ended]

theorem ended_of_not_mem {g : GuardId} {l : List (GuardId × Context)} (h : g ∉ l.map (·.1)) :
    ended g l = l := if_neg h

theorem ended_cons_of_mem {g h : GuardId} {l : List (GuardId × Context)} (hne : h ≠ g)
    (hg : g ∈ l.map (·.1)) (cx : Context) : ended g ((h, cx) :: l) = ended g l := by
  have hg' : g ∈ ((h, cx) :: l).map (·.1) := List.mem_cons_of_mem _ hg
  rw [ended, ended, if_pos hg, if_pos hg', List.dropWhile_cons_of_pos (by simpa using hne)]

theorem ended_suffix (g : GuardId) (l : List (GuardId × Context)) : ended g l <:+ l := by
  unfold ended
  split
  · exact (List.tail_suffix _).trans (List.dropWhile_suffix _)
  · exact List.suffix_refl l

/-- A live guard was attached, and no guard is live twice that was attached once. -/
theorem live_sublist (us : List StackUse) : ((live us).map (·.1)).Sublist (guards us) := by
  induction us with
  | nil => exact List.Sublist.refl _
  | cons u older ih =>
      cases u with
      | attach g cx => exact ih.cons_cons g
      | drop g => exact ((ended_suffix g (live older)).sublist.map (·.1)).trans ih

theorem ended_append_of_mem {g : GuardId} {xs : List (GuardId × Context)} (h : g ∈ xs.map (·.1))
    (ys : List (GuardId × Context)) : ended g (xs ++ ys) = ended g xs ++ ys := by
  induction xs with
  | nil => simp at h
  | cons x xs ih =>
      obtain ⟨k, cx⟩ := x
      by_cases hk : k = g
      · subst hk
        rw [List.cons_append, ended_cons_self, ended_cons_self]
      · have hx : g ∈ xs.map (·.1) := by
          rcases List.mem_cons.mp h with he | hx
          · exact absurd he.symm hk
          · exact hx
        have hxy : g ∈ (xs ++ ys).map (·.1) := by
          rw [List.map_append]
          exact List.mem_append_left _ hx
        rw [List.cons_append, ended_cons_of_mem hk hxy, ended_cons_of_mem hk hx, ih hx]

theorem ended_append_of_not_mem {g : GuardId} {xs ys : List (GuardId × Context)}
    (hx : g ∉ xs.map (·.1)) (hy : g ∈ ys.map (·.1)) : ended g (xs ++ ys) = ended g ys := by
  induction xs with
  | nil => rfl
  | cons x xs ih =>
      obtain ⟨k, cx⟩ := x
      simp only [List.map_cons, List.mem_cons, not_or] at hx
      have hxy : g ∈ (xs ++ ys).map (·.1) := by
        rw [List.map_append]
        exact List.mem_append_right _ hy
      rw [List.cons_append, ended_cons_of_mem (Ne.symm hx.1) hxy, ih hx.2]

/-- No guard is live that was dropped or is newer than one that was. -/
theorem not_mem_ended_cons {g h : GuardId} {cx : Context} {l : List (GuardId × Context)}
    (hg : g ∉ l.map (·.1)) (hh : h ∈ ((g, cx) :: l).map (·.1)) : g ∉ (ended h ((g, cx) :: l)).map (·.1) := by
  by_cases he : g = h
  · rw [he, ended_cons_self, ← he]
    exact hg
  · have hl : h ∈ l.map (·.1) := (List.mem_cons.mp hh).resolve_left (Ne.symm he)
    rw [ended_cons_of_mem he hl]
    exact fun hm => hg (((ended_suffix h l).sublist.map (·.1)).subset hm)

/-- As long as a guard is live, so are all that were live when it was attached, and of those attached
later some. -/
theorem live_append_attach {g : GuardId} {cx : Context} {newer older : List StackUse}
    (hnew : g ∉ guards newer) (hold : g ∉ guards older)
    (hg : g ∈ (live (newer ++ .attach g cx :: older)).map (·.1)) :
    ∃ between, g ∉ between.map (·.1) ∧
      live (newer ++ .attach g cx :: older) = between ++ (g, cx) :: live older := by
  have hlive : g ∉ (live older).map (·.1) := fun hm => hold ((live_sublist older).subset hm)
  induction newer with
  | nil => exact ⟨[], by simp, rfl⟩
  | cons u newer ih =>
      cases u with
      | attach h cy =>
          have hne : g ≠ h := fun he => hnew (he ▸ List.mem_cons_self)
          obtain ⟨between, hb, he⟩ := ih (fun hm => hnew (List.mem_cons_of_mem _ hm))
            ((List.mem_cons.mp hg).resolve_left hne)
          refine ⟨(h, cy) :: between, ?_, ?_⟩
          · exact fun hm => hb ((List.mem_cons.mp hm).resolve_left hne)
          · rw [List.cons_append, live, he, List.cons_append]
      | drop h =>
          rw [List.cons_append, live] at hg ⊢
          obtain ⟨between, hb, he⟩ := ih hnew (((ended_suffix h _).sublist.map (·.1)).subset hg)
          rw [he] at hg ⊢
          by_cases hm : h ∈ between.map (·.1)
          · refine ⟨ended h between, fun hx => hb ?_, ended_append_of_mem hm _⟩
            exact ((ended_suffix h between).sublist.map (·.1)).subset hx
          · by_cases hx : h ∈ ((g, cx) :: live older).map (·.1)
            · rw [ended_append_of_not_mem hm hx] at hg
              exact absurd hg (not_mem_ended_cons hlive hx)
            · refine ⟨between, hb, ended_of_not_mem ?_⟩
              rw [List.map_append, List.mem_append]
              exact not_or.mpr ⟨hm, hx⟩

/-- Dropping a live guard leaves those live that were so before it was attached. -/
theorem ended_live {g : GuardId} {cx : Context} {newer older : List StackUse}
    (hnew : g ∉ guards newer) (hold : g ∉ guards older)
    (hg : g ∈ (live (newer ++ .attach g cx :: older)).map (·.1)) :
    ended g (live (newer ++ .attach g cx :: older)) = live older := by
  obtain ⟨between, hb, he⟩ := live_append_attach hnew hold hg
  rw [he, ended_append_of_not_mem hb List.mem_cons_self, ended_cons_self]

end StackUse

/-! ## Stacks -/

namespace ContextStack

/-- The stack after a use. -/
def use (s : ContextStack) : StackUse → ContextStack
  | .attach g cx => s.attach g cx
  | .drop g => (s.detach g).1

/-- The stack that began with a context, after some uses. -/
def after (began : Context) : List StackUse → ContextStack
  | [] => .starting began
  | u :: older => (after began older).use u

/-- The stack on which some guards were attached and nothing was dropped. -/
def built (began : Context) : List (GuardId × Context) → ContextStack
  | [] => .starting began
  | (g, cx) :: older => (built began older).attach g cx

variable {began : Context}

theorem current_built (l : List (GuardId × Context)) :
    (built began l).current = (l.head?.map (·.2)).getD began := by
  cases l <;> rfl

theorem guards_built (l : List (GuardId × Context)) : (built began l).saved.map (·.1) = l.map (·.1) := by
  induction l with
  | nil => rfl
  | cons e l ih => exact congrArg (e.1 :: ·) ih

/-- A drop takes away the guard and what stands before it. -/
theorem detach_built (g : GuardId) (l : List (GuardId × Context)) :
    ((built began l).detach g).1 = built began (StackUse.ended g l) := by
  induction l with
  | nil => rfl
  | cons e l ih =>
      obtain ⟨h, cx⟩ := e
      by_cases hg : h = g
      · rw [hg, StackUse.ended_cons_self, built, detach_attach]
      · by_cases hl : g ∈ l.map (·.1)
        · rw [StackUse.ended_cons_of_mem hg hl, ← ih]
          simp only [built, detach, attach, behind?, if_neg hg]
          cases hb : behind? g (built began l).saved with
          | none => exact absurd hl (guards_built l ▸ behind?_eq_none_iff.mp hb)
          | some b => rfl
        · have hno : g ∉ ((h, cx) :: l).map (·.1) :=
            fun hm => hl ((List.mem_cons.mp hm).resolve_left (Ne.symm hg))
          rw [StackUse.ended_of_not_mem hno, detach_of_not_mem]
          rwa [guards_built]

/-- A stack is the one on which its live guards were attached. -/
theorem after_eq_built (us : List StackUse) : after began us = built began (StackUse.live us) := by
  induction us with
  | nil => rfl
  | cons u older ih =>
      cases u with
      | attach g cx => simp only [after, use, ih, StackUse.live, built]
      | drop g => simp only [after, use, ih, StackUse.live, detach_built]

theorem guards_after (us : List StackUse) :
    (after began us).saved.map (·.1) = (StackUse.live us).map (·.1) := by
  rw [after_eq_built, guards_built]

theorem detach_eq_notFound_iff (s : ContextStack) (g : GuardId) :
    (s.detach g).2 = .notFound ↔ g ∉ s.saved.map (·.1) := by
  constructor
  · intro hd hm
    unfold detach at hd
    cases hb : behind? g s.saved with
    | none => exact behind?_eq_none_iff.mp hb hm
    | some b =>
        rw [hb] at hd
        dsimp only at hd
        split at hd <;> cases hd
  · intro hno
    rw [detach_of_not_mem hno]

/-- Nothing is logged exactly when the newest live guard is dropped. -/
theorem logs_detach_eq_nil_iff (s : ContextStack) (g : GuardId) :
    (s.detach g).2.logs = [] ↔ s.saved.head?.map (·.1) = some g := by
  unfold detach
  cases hb : behind? g s.saved with
  | none =>
      have hno := behind?_eq_none_iff.mp hb
      have hhead : s.saved.head?.map (·.1) ≠ some g := by
        intro hh
        obtain ⟨e, he, hg⟩ := Option.map_eq_some_iff.mp hh
        exact hno (List.mem_map.mpr ⟨e, List.mem_of_head? he, hg⟩)
      simp only [hhead, iff_false]
      exact List.cons_ne_nil _ _
  | some b =>
      by_cases hh : s.saved.head?.map (·.1) = some g
      · simp [hh, Detached.logs]
      · simp [hh, Detached.logs]

end ContextStack

end Telemetry
