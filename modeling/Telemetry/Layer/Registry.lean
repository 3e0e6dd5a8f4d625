/-!
# Open spans

A span is opened once and may then be held by several holders: handles in the instrumented code,
and each span that was opened as its child and is still open.  When its last holder lets go it
closes, and so lets go of its parent.

A parent is always older than its children.  The open spans are kept with the newest first, so that
the parent of a span lies behind it, and `release` closes a whole line of ancestors in one pass over
the list.

Code enters and leaves spans.  The spans that it has entered make a row with the latest first.  A
span may be entered again while it is entered already, but such an entry counts for nothing: the
current span is the latest one that was not in the row when it was entered.  Being entered does not
hold a span open.  When the current span is closed there is none until it is left.
-/

namespace Telemetry

/-- The number of a span in a registry. -/
abbrev SpanKey := Nat

/-! ## Holding and letting go -/

/-- A span that is open. -/
structure OpenSpan (δ : Type) where
  /-- Its number. -/
  key : SpanKey
  /-- The span it is part of, which was opened before it. -/
  parent : Option SpanKey
  /-- How many holders it has. -/
  holders : Nat
  /-- What is kept of it. -/
  content : δ

namespace OpenSpan

variable {δ : Type}

/-- The span with one more holder. -/
def held (s : OpenSpan δ) : OpenSpan δ := { s with holders := s.holders + 1 }

/-- The span with a change to what is kept of it. -/
def mapContent (f : δ → δ) (s : OpenSpan δ) : OpenSpan δ := { s with content := f s.content }

/-- Changes one span among several. -/
def update (key : SpanKey) (f : OpenSpan δ → OpenSpan δ) : List (OpenSpan δ) → List (OpenSpan δ)
  | [] => []
  | s :: rest => if s.key = key then f s :: rest else s :: update key f rest
termination_by structural spans => spans

/-- Lets go of a span once.  Gives the spans that are left and those that close by it, children
first. -/
def release (key : SpanKey) : List (OpenSpan δ) → List (OpenSpan δ) × List (OpenSpan δ)
  | [] => ([], [])
  | s :: rest =>
    if s.key = key then
      if 1 < s.holders then ({ s with holders := s.holders - 1 } :: rest, [])
      else
        match s.parent with
        | some parent =>
          let (left, closed) := release parent rest
          (left, s :: closed)
        | none => (rest, [s])
    else
      let (left, closed) := release key rest
      (s :: left, closed)
termination_by structural spans => spans

end OpenSpan

/-! ## Entering and leaving -/

/-- The current one of a row of entered spans, latest first: the latest that is not in the row
before it. -/
def currentEntered? : List SpanKey → Option SpanKey
  | [] => none
  | k :: earlier => if earlier.contains k then currentEntered? earlier else some k
termination_by structural row => row

/-! ## The registry -/

/-- The spans that are open, and those that were entered. -/
structure Registry (δ : Type) where
  /-- The open spans, newest first. -/
  spans : List (OpenSpan δ)
  /-- The number of the next span. -/
  next : SpanKey
  /-- The spans that were entered and not left, latest first. -/
  entered : List SpanKey

namespace Registry

variable {δ : Type}

/-- No span is open. -/
def empty : Registry δ := ⟨[], 0, []⟩

instance : Inhabited (Registry δ) := ⟨empty⟩

/-- The open span of a number. -/
def find? (r : Registry δ) (key : SpanKey) : Option (OpenSpan δ) := r.spans.find? (·.key == key)

/-- What is kept of an open span. -/
def content? (r : Registry δ) (key : SpanKey) : Option δ := (r.find? key).map (·.content)

/-- The current span, if it is open. -/
def current? (r : Registry δ) : Option SpanKey :=
  (currentEntered? r.entered).filter fun key => (r.find? key).isSome

/-- One more holder for a span. -/
def hold (r : Registry δ) (key : SpanKey) : Registry δ :=
  { r with spans := OpenSpan.update key OpenSpan.held r.spans }

/-- Opens a span with one holder.  A parent that is not open is none. -/
def insert (r : Registry δ) (parent : Option SpanKey) (content : δ) : Registry δ × SpanKey :=
  let parent := parent.filter fun key => (r.find? key).isSome
  let held := match parent with
    | some key => r.hold key
    | none => r
  ({ held with spans := ⟨r.next, parent, 1, content⟩ :: held.spans, next := r.next + 1 }, r.next)

/-- Changes what is kept of a span. -/
def modify (r : Registry δ) (key : SpanKey) (f : δ → δ) : Registry δ :=
  { r with spans := OpenSpan.update key (OpenSpan.mapContent f) r.spans }

/-- One holder lets go of a span.  Gives the spans that close by it, children first. -/
def release (r : Registry δ) (key : SpanKey) : Registry δ × List (OpenSpan δ) :=
  let (left, closed) := OpenSpan.release key r.spans
  ({ r with spans := left }, closed)

/-- Enters a span. -/
def enter (r : Registry δ) (key : SpanKey) : Registry δ := { r with entered := key :: r.entered }

/-- Leaves a span, the latest entry of it first. -/
def leave (r : Registry δ) (key : SpanKey) : Registry δ := { r with entered := r.entered.erase key }

end Registry

/-! ## Laws -/

namespace OpenSpan

variable {δ : Type}

/-- A change of one span that keeps its number is seen at this number only. -/
theorem find?_update {f : OpenSpan δ → OpenSpan δ} (hf : ∀ s, (f s).key = s.key) (key k : SpanKey)
    (spans : List (OpenSpan δ)) :
    (update key f spans).find? (·.key == k)
      = if k = key then (spans.find? (·.key == k)).map f else spans.find? (·.key == k) := by
  induction spans with
  | nil => simp [update]
  | cons s rest ih =>
    by_cases hs : s.key = key
    · by_cases hk : k = key
      · simp [update, hs, hk, hf]
      · have h1 : (key == k) = false := by simpa using fun e : key = k => hk e.symm
        simp [update, hs, hk, hf, h1]
    · by_cases hk : s.key = k
      · have h2 : k ≠ key := fun e => hs (hk.trans e)
        simp [update, hk, h2]
      · have h1 : (s.key == k) = false := by simpa using hk
        simp only [update, hs, if_false, List.find?_cons, h1, ih]

/-- Every span that closes was open. -/
theorem mem_of_mem_release {key : SpanKey} {spans : List (OpenSpan δ)} {s : OpenSpan δ}
    (h : s ∈ (release key spans).2) : s ∈ spans := by
  induction spans generalizing key with
  | nil => simp [release] at h
  | cons x rest ih =>
    unfold release at h
    split at h
    · split at h
      · simp at h
      · split at h
        · rcases List.mem_cons.mp h with h | h
          · exact h ▸ List.mem_cons_self ..
          · exact List.mem_cons_of_mem _ (ih h)
        · rcases List.mem_cons.mp h with h | h
          · exact h ▸ List.mem_cons_self ..
          · simp at h
    · exact List.mem_cons_of_mem _ (ih h)

/-- A change that does not show in a view of the spans leaves the view as it was. -/
theorem map_update {β : Type} {view : OpenSpan δ → β} {f : OpenSpan δ → OpenSpan δ}
    (hf : ∀ s, view (f s) = view s) (key : SpanKey) (spans : List (OpenSpan δ)) :
    (update key f spans).map view = spans.map view := by
  induction spans with
  | nil => rfl
  | cons s rest ih =>
    rw [update]
    split
    · rw [List.map_cons, List.map_cons, hf]
    · rw [List.map_cons, List.map_cons, ih]

/-- Every span stays open or closes, and not both.  The view is of all but the holders, since a span
that stays open may have lost one. -/
theorem perm_release {β : Type} {view : OpenSpan δ → β}
    (hv : ∀ (s : OpenSpan δ) (n : Nat), view { s with holders := n } = view s) (key : SpanKey)
    (spans : List (OpenSpan δ)) :
    ((release key spans).1.map view ++ (release key spans).2.map view).Perm (spans.map view) := by
  induction spans generalizing key with
  | nil => exact .nil
  | cons s rest ih =>
    unfold release
    split
    · split
      · rw [List.map_nil, List.append_nil, List.map_cons, List.map_cons, hv]
      · cases hp : s.parent with
        | none => exact List.perm_append_singleton (view s) (rest.map view)
        | some parent => exact List.perm_middle.trans ((ih parent).cons (view s))
    · exact (ih key).cons (view s)

end OpenSpan

namespace Registry

variable {δ : Type}

@[simp] theorem content?_hold (r : Registry δ) (key k : SpanKey) :
    (r.hold key).content? k = r.content? k := by
  have h := OpenSpan.find?_update (fun _ => rfl : ∀ s : OpenSpan δ, s.held.key = s.key) key k r.spans
  simp only [content?, find?, hold, h]
  split
  · rw [Option.map_map]
    rfl
  · rfl

/-- Changing a span is seen in this span only. -/
theorem content?_modify (r : Registry δ) (key k : SpanKey) (f : δ → δ) :
    (r.modify key f).content? k = if k = key then (r.content? k).map f else r.content? k := by
  have h := OpenSpan.find?_update (fun _ => rfl : ∀ s : OpenSpan δ, (s.mapContent f).key = s.key) key k r.spans
  simp only [content?, find?, modify, h]
  split
  · rw [Option.map_map, Option.map_map]
    rfl
  · rfl

/-- A new span is found under the next number, and the others as before. -/
theorem content?_insert (r : Registry δ) (parent : Option SpanKey) (content : δ) (k : SpanKey) :
    (r.insert parent content).1.content? k = if k = r.next then some content else r.content? k := by
  have held : ∀ q : Registry δ, (∀ k, q.content? k = r.content? k) → (∀ p : Option SpanKey,
      (Registry.mk (⟨r.next, p, 1, content⟩ :: q.spans) (r.next + 1) q.entered).content? k
        = if k = r.next then some content else r.content? k) := by
    intro q hq p
    by_cases h : k = r.next
    · simp [content?, find?, h]
    · have h1 : (r.next == k) = false := by simpa using fun e : r.next = k => h e.symm
      rw [← hq k]
      simp [content?, find?, h1, h]
  unfold insert
  cases parent.filter fun key => (r.find? key).isSome with
  | none => exact held r (fun _ => rfl) none
  | some key => exact held (r.hold key) (content?_hold r key) (some key)

end Registry

/-! ## Tests -/

section Tests

/-- A span with a child that has a child, each with one handle. -/
def threeGenerations : Registry Unit :=
  let (r, grandparent) := Registry.empty.insert none ()
  let (r, parent) := r.insert (some grandparent) ()
  (r.insert (some parent) ()).1

example : threeGenerations.spans.map (fun s => (s.key, s.parent, s.holders))
    = [(2, some 1, 1), (1, some 0, 2), (0, none, 2)] := by decide
/-- A parent stays open as long as its child does. -/
example : ((threeGenerations.release 0).1.release 1).2.map OpenSpan.key = [] := by decide
/-- The last child takes the whole line with it. -/
example : (((threeGenerations.release 0).1.release 1).1.release 2).2.map OpenSpan.key = [2, 1, 0] := by
  decide
/-- An entry that is entered again does not become current. -/
example : currentEntered? [0, 1, 0] = some 1 ∧ currentEntered? [0, 0] = some 0 := by decide
/-- Nothing shows through a current span that is closed. -/
example : (((threeGenerations.enter 0).enter 2).release 2).1.current? = none := by decide

end Tests

end Telemetry
