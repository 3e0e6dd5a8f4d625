import Telemetry.Proofs.Layer.History

/-!
# What is said of spans

Instrumented code opens a span with some fields, writes fields of it later on, and reports events in
it.  These are the *remarks* about the span.  A record has nothing but them to say: its attributes are
the fields that were written, each with its last value, and its status is that of the last failure
that was reported (`Describes`).

What is kept of an open span goes with the remarks about it since it was opened (`Tells`).  One step
of a run makes at most one remark, which is about one span.  So of an open span there is either
nothing new, or just what this remark says (`content_step`).  All other spans stay as they are, also
the parent of the span and its children.
-/

namespace Telemetry

/-! ## Remarks -/

/-- Something that is said of a span. -/
inductive Remark where
  /-- It is opened with some fields. -/
  | opened (fields : Fields)
  /-- Some of its fields are written. -/
  | noted (fields : Fields)
  /-- An event is reported in it. -/
  | reported (level : Level) (target : String) (fields : Fields)
deriving DecidableEq

namespace Remark

/-- The fields that are written. -/
def noted? : Remark → Option Fields
  | .noted fields => some fields
  | .opened _ | .reported _ _ _ => none

/-- The fields of an event that makes the span a failed one. -/
def failure? : Remark → Option Fields
  | .reported level target fields =>
    if level = .error ∧ Target.isInternal target = false then some fields else none
  | .opened _ | .noted _ => none

/-- The remarks about one span. -/
def about (key : SpanKey) (rs : List (SpanKey × Remark)) : List Remark :=
  rs.filterMap fun r => if r.1 = key then some r.2 else none

/-- All fields that are written of a span, those of its opening first.  Only names that it was opened
with count. -/
def written (opened : Fields) (later : List Remark) : Fields :=
  opened ++ Fields.among (later.filterMap noted?).flatten opened.names

/-- The fields of all failures that are reported. -/
def failures (rs : List Remark) : List Fields := rs.filterMap failure?

/-- How a span ends, of which some failures were reported. -/
def outcome (failures : List Fields) : Status :=
  match failures.getLast? with
  | some fields => .error fields.message
  | none => .unset

variable {key : SpanKey} {rs : List (SpanKey × Remark)}

theorem about_append (new : List (SpanKey × Remark)) : about key (rs ++ new) = about key rs ++ about key new :=
  List.filterMap_append

theorem about_singleton_self (r : Remark) : about key [(key, r)] = [r] := by
  have hself : (if key = key then some r else none) = some r := if_pos rfl
  exact List.filterMap_cons_some hself

theorem about_singleton_of_ne {k : SpanKey} (h : k ≠ key) (r : Remark) : about key [(k, r)] = [] :=
  List.filterMap_cons_none (if_neg h)

theorem written_nil (opened : Fields) : written opened [] = opened := List.append_nil _

theorem written_concat (opened : Fields) (later : List Remark) (r : Remark) :
    written opened (later ++ [r]) = written opened later ++ Fields.among (r.noted?.getD []) opened.names := by
  rw [written, written, List.append_assoc, List.filterMap_append, List.flatten_append, Fields.among, Fields.among,
    Fields.among, List.filter_append]
  cases h : r.noted? with
  | none => rw [List.filterMap_cons_none h]; rfl
  | some fields => rw [List.filterMap_cons_some h, List.filterMap_nil, List.flatten_singleton]; rfl

theorem failures_concat (rs : List Remark) (r : Remark) : failures (rs ++ [r]) = failures rs ++ r.failure?.toList := by
  rw [failures, List.filterMap_append]
  cases h : r.failure? with
  | none => rw [List.filterMap_cons_none h]; rfl
  | some fields => rw [List.filterMap_cons_some h]; rfl

end Remark

open Remark (about written failures outcome)

/-! ## What is kept of a span -/

/-- A span when something was said of it. -/
def TracedSpan.hearing (c : TracedSpan) : Remark → TracedSpan
  | .opened _ => c
  | .noted fields => c.noting fields
  | .reported level target fields =>
    if level = .error ∧ Target.isInternal target = false then c.failing fields.message else c

/-- A sketch has the fields that were written, each with its last value, and the last failure. -/
structure SpanSketch.Keeps (k : SpanSketch) (opened : Fields) (later : List Remark) : Prop where
  attributes : k.attributes = Attributes.notingAll .empty (written opened later)
  status : k.status = outcome (failures later)

/-- What is kept of a span goes with what was said of it since it was opened. -/
def TracedSpan.Tells (c : TracedSpan) (said : List Remark) : Prop :=
  ∃ before opened later, said = before ++ .opened opened :: later ∧ (∀ fields, .opened fields ∉ later) ∧
    c.declared = opened.names ∧ ∀ k, c.sketch = some k → k.Keeps opened later

namespace TracedSpan

variable {c : TracedSpan} {said : List Remark}

theorem mapSketch_eq_some {f : SpanSketch → SpanSketch} {k : SpanSketch} (h : (c.mapSketch f).sketch = some k) :
    ∃ k₀, c.sketch = some k₀ ∧ k = f k₀ := by
  obtain ⟨k₀, hk₀, hk⟩ := Option.map_eq_some_iff.mp h
  exact ⟨k₀, hk₀, hk.symm⟩

theorem notingAll_append (a : Attributes) (fs gs : Fields) :
    a.notingAll (fs ++ gs) = (a.notingAll fs).notingAll gs := List.foldl_append

/-- A new span, of which nothing but its fields was said. -/
theorem Tells.opened {opened : Fields} (hdeclared : c.declared = opened.names)
    (hsketch : ∀ k, c.sketch = some k → k.attributes = Attributes.notingAll .empty opened ∧ k.status = .unset) :
    c.Tells (said ++ [.opened opened]) := by
  refine ⟨said, opened, [], rfl, fun _ => List.not_mem_nil, hdeclared, fun k hk => ?_⟩
  obtain ⟨hattributes, hstatus⟩ := hsketch k hk
  exact ⟨by rw [hattributes, Remark.written_nil], hstatus⟩

/-- A remark changes of what is kept what it says, and no more. -/
theorem Tells.hearing (h : c.Tells said) {r : Remark} (hr : ∀ fields, r ≠ .opened fields) :
    (c.hearing r).Tells (said ++ [r]) := by
  obtain ⟨before, opened, later, rfl, hlater, hdeclared, hsketch⟩ := h
  have hlater' : ∀ fields, .opened fields ∉ later ++ [r] := fun fields hmem =>
    (List.mem_append.mp hmem).elim (hlater fields) fun hmem => hr fields (List.mem_singleton.mp hmem).symm
  refine ⟨before, opened, later ++ [r], by rw [List.append_assoc, List.cons_append], hlater', ?_⟩
  cases r with
  | opened fields => exact absurd rfl (hr fields)
  | noted fields =>
    refine ⟨hdeclared, fun k hk => ?_⟩
    obtain ⟨k₀, hk₀, rfl⟩ := mapSketch_eq_some hk
    have hkept := hsketch k₀ hk₀
    constructor
    · rw [Remark.written_concat, notingAll_append, ← hkept.attributes, ← hdeclared]
      rfl
    · rw [Remark.failures_concat]
      exact hkept.status.trans (congrArg outcome (List.append_nil _).symm)
  | reported level target fields =>
    have hsame : written opened (later ++ [.reported level target fields]) = written opened later :=
      (Remark.written_concat ..).trans (List.append_nil _)
    rw [TracedSpan.hearing]
    split
    next hfails =>
      refine ⟨hdeclared, fun k hk => ?_⟩
      obtain ⟨k₀, hk₀, rfl⟩ := mapSketch_eq_some hk
      refine ⟨hsame ▸ (hsketch k₀ hk₀).attributes, ?_⟩
      rw [Remark.failures_concat, Remark.failure?, if_pos hfails, Option.toList_some, outcome, List.getLast?_concat]
    next hfails =>
      refine ⟨hdeclared, fun k hk => ⟨hsame ▸ (hsketch k hk).attributes, ?_⟩⟩
      rw [Remark.failures_concat, Remark.failure?, if_neg hfails, Option.toList_none, List.append_nil]
      exact (hsketch k hk).status

end TracedSpan

/-! ## Open spans -/

/-- An open span as it is found. -/
def OpenSpan.entry {δ : Type} (s : OpenSpan δ) : SpanKey × δ := (s.key, s.content)

namespace Registry

variable {δ : Type} {r : Registry δ} {key k : SpanKey} {content : δ}

/-- An open span is found under its number. -/
theorem content?_eq_some_iff (hd : (r.spans.map (·.key)).Nodup) :
    r.content? k = some content ↔ (k, content) ∈ r.spans.map OpenSpan.entry := by
  rw [content?, find?, Option.map_eq_some_iff, List.mem_map]
  constructor
  · rintro ⟨s, hs, rfl⟩
    have hkey := List.find?_some hs
    exact ⟨s, List.mem_of_find?_eq_some hs, by rw [OpenSpan.entry, eq_of_beq hkey]⟩
  · rintro ⟨s, hs, he⟩
    obtain ⟨rfl, rfl⟩ := Prod.mk.inj he
    refine ⟨s, ?_, rfl⟩
    cases hfound : r.spans.find? (·.key == s.key) with
    | none => exact absurd (beq_self_eq_true s.key) (List.find?_eq_none.mp hfound s hs)
    | some s' =>
      have hkey := List.find?_some hfound
      rw [List.inj_on_of_nodup_map hd (List.mem_of_find?_eq_some hfound) hs (eq_of_beq hkey)]

/-- A span that is open when another one was let go of was open before. -/
theorem content?_of_release (hd : (r.spans.map (·.key)).Nodup)
    (h : (r.release key).1.content? k = some content) : r.content? k = some content := by
  have hperm : ((r.release key).1.spans.map OpenSpan.entry ++ (r.release key).2.map OpenSpan.entry).Perm
      (r.spans.map OpenSpan.entry) := OpenSpan.perm_release (fun _ _ => rfl) key r.spans
  have hkeys : ((r.release key).1.spans.map (·.key) ++ (r.release key).2.map (·.key)).Perm (r.spans.map (·.key)) :=
    OpenSpan.perm_release (fun _ _ => rfl) key r.spans
  have hd' : ((r.release key).1.spans.map (·.key)).Nodup := (List.nodup_append.mp (hkeys.nodup_iff.mpr hd)).1
  refine (content?_eq_some_iff hd).mpr (hperm.subset (List.mem_append_left _ ?_))
  exact (content?_eq_some_iff hd').mp h

end Registry

namespace Tracer

variable {t : Tracer} {key : SpanKey} {c : TracedSpan}

/-- What a step says of spans. -/
def remarks (t : Tracer) : Step → List (SpanKey × Remark)
  | .openSpan _ _ fields _ _ _ => [(t.spans.next, .opened fields)]
  | .note key fields => [(key, .noted fields)]
  | .event level target fields parentage =>
    ((t.enclosing? parentage).map fun key => (key, .reported level target fields)).toList
  | .enter _ | .leave _ | .share _ | .release _ _ | .attach _ | .detach _ => []

/-- What is kept of a span after a step: it was just opened, or it has heard what was said of it. -/
inductive Hears (t : Tracer) (key : SpanKey) (said : List Remark) (c : TracedSpan) : Prop where
  | opened {fields} : said = [.opened fields] → c.declared = fields.names →
      (∀ k, c.sketch = some k → k.attributes = Attributes.notingAll .empty fields ∧ k.status = .unset) →
      Hears t key said c
  | nothing : said = [] → t.spans.content? key = some c → Hears t key said c
  | heard {r c₀} : said = [r] → (∀ fields, r ≠ .opened fields) → t.spans.content? key = some c₀ →
      c = c₀.hearing r → Hears t key said c

/-- A remark about one open span. -/
theorem Hears.of_modify {k : SpanKey} {r : Remark} (hr : ∀ fields, r ≠ .opened fields)
    (h : (t.spans.modify k (·.hearing r)).content? key = some c) : Hears t key (about key [(k, r)]) c := by
  rw [Registry.content?_modify] at h
  by_cases hk : key = k
  · subst hk
    rw [if_pos rfl, Option.map_eq_some_iff] at h
    obtain ⟨c₀, hc₀, rfl⟩ := h
    exact .heard (Remark.about_singleton_self r) hr hc₀ rfl
  · rw [if_neg hk] at h
    exact .nothing (Remark.about_singleton_of_ne (Ne.symm hk) r) h

theorem newSketch_attributes (t : Tracer) (parent : Option SpanKey) (fields : Fields) (fresh : FreshIds) (now : Time) :
    (t.newSketch parent fields fresh now).attributes = Attributes.notingAll .empty fields ∧
      (t.newSketch parent fields fresh now).status = .unset := by
  unfold newSketch
  dsimp only
  split <;> exact ⟨rfl, rfl⟩

theorem Hears.of_openSpan {name target : String} {fields : Fields} {parentage : Parentage} {fresh : FreshIds} {now : Time}
    (h : (t.openSpan name target fields parentage fresh now).spans.content? key = some c) :
    Hears t key (about key [(t.spans.next, .opened fields)]) c := by
  rw [openSpan, Registry.content?_insert] at h
  by_cases hk : key = t.spans.next
  · rw [if_pos hk, Option.some.injEq] at h
    subst hk h
    refine .opened (Remark.about_singleton_self _) rfl fun k hk => ?_
    dsimp only at hk
    split at hk
    next => cases hk
    next =>
      rw [← Option.some.inj hk]
      exact newSketch_attributes ..
  · rw [if_neg hk] at h
    exact .nothing (Remark.about_singleton_of_ne (Ne.symm hk) _) h

/-- An event is a remark about the span that it is reported in. -/
theorem content?_event {level : Level} {target : String} {fields : Fields} {parentage : Parentage} {k : SpanKey}
    (hk : t.enclosing? parentage = some k) : (t.event level target fields parentage).spans.content? key =
      (t.spans.modify k (·.hearing (.reported level target fields))).content? key := by
  by_cases hfails : level = .error ∧ Target.isInternal target = false
  · have hheard : (TracedSpan.hearing · (.reported level target fields)) = (TracedSpan.failing · fields.message) :=
      funext fun c => if_pos hfails
    rw [hheard, event, if_neg (by simp [hfails]), hk]
  · have hheard : (TracedSpan.hearing · (.reported level target fields)) = id :=
      funext fun c => if_neg hfails
    have hquiet : (Target.isInternal target || level != .error) = true := by
      cases hinternal : Target.isInternal target with
      | true => rfl
      | false => simpa [hinternal] using hfails
    rw [hheard, event, if_pos hquiet, Registry.content?_modify, Option.map_id, id_eq, ite_self]

/-- What a step does to what is kept of a span depends on what it says of this span, and on nothing else. -/
theorem content_step (hd : (t.spans.spans.map (·.key)).Nodup) {s : Step}
    (h : (t.step s).1.spans.content? key = some c) : Hears t key (about key (t.remarks s)) c := by
  cases s with
  | openSpan name target fields parentage fresh now => exact .of_openSpan h
  | note k fields => exact .of_modify (r := .noted fields) (fun _ => nofun) h
  | event level target fields parentage =>
    cases hk : t.enclosing? parentage with
    | none =>
      have hsame : t.event level target fields parentage = t := by
        unfold event
        split
        · rfl
        · rw [hk]
      rw [remarks, hk]
      exact .nothing rfl (hsame ▸ h)
    | some k =>
      rw [remarks, hk]
      refine .of_modify (r := .reported level target fields) (fun _ => nofun) ?_
      rw [← content?_event hk]
      exact h
  | enter | leave | attach | detach => exact .nothing rfl h
  | share k => exact .nothing rfl (Registry.content?_hold t.spans k key ▸ h)
  | release k now => exact .nothing rfl (Registry.content?_of_release hd h)

end Tracer

end Telemetry
