/-!
# Fields between separators

Every header format here is a row of fields with a separator character between them.  `fields`
cuts a text at every separator, and a text without one is a single field, the empty text too.
`cut` cuts at the first separator only and fails if there is none.  `join` writes fields with
separators between them.

The lemmas make `fields` and `join` inverse to each other: `join_fields` holds for every text, and
`fields_join` for every non-empty row of fields that hold no separator.
-/

namespace Telemetry.Text

/-! ## Cutting and joining -/

/-- The fields of a text between separators, of which there is always at least one. -/
def fields (sep : Char) : List Char → List (List Char)
  | [] => [[]]
  | c :: cs => if c = sep then [] :: fields sep cs else (fields sep cs).modifyHead (c :: ·)
termination_by structural cs => cs

/-- What stands before the first separator and what stands after it. -/
def cut (sep : Char) : List Char → Option (List Char × List Char)
  | [] => none
  | c :: cs =>
    if c = sep then some ([], cs) else (cut sep cs).map fun (before, after) => (c :: before, after)
termination_by structural cs => cs

/-- Fields written in a row with one separator between neighbours. -/
def join (sep : Char) : List (List Char) → List Char
  | [] => []
  | [f] => f
  | f :: fs => f ++ sep :: join sep fs
termination_by structural fs => fs

/-! ## Laws -/

theorem fields_ne_nil (sep : Char) (cs : List Char) : fields sep cs ≠ [] := by
  cases cs with
  | nil => simp [fields]
  | cons c cs =>
    by_cases h : c = sep
    · simp [fields, h]
    · cases hf : fields sep cs with
      | nil => exact absurd hf (fields_ne_nil sep cs)
      | cons f fs => simp [fields, h, hf]

@[simp] theorem fields_nil (sep : Char) : fields sep [] = [[]] := rfl

@[simp] theorem fields_cons_self (sep : Char) (cs : List Char) :
    fields sep (sep :: cs) = [] :: fields sep cs := by
  simp [fields]

theorem fields_cons_of_ne {sep c : Char} (h : c ≠ sep) (cs : List Char) :
    fields sep (c :: cs) = (fields sep cs).modifyHead (c :: ·) := by
  simp [fields, h]

/-- A text without a separator is one field. -/
theorem fields_of_not_mem {sep : Char} {f : List Char} (h : sep ∉ f) : fields sep f = [f] := by
  induction f with
  | nil => rfl
  | cons c f ih =>
    have hc : c ≠ sep := fun e => h (e ▸ List.mem_cons_self)
    have hf : sep ∉ f := fun m => h (List.mem_cons_of_mem _ m)
    simp [fields_cons_of_ne hc, ih hf]

/-- A field is cut off at the separator that ends it. -/
theorem fields_append_cons {sep : Char} {f : List Char} (h : sep ∉ f) (cs : List Char) :
    fields sep (f ++ sep :: cs) = f :: fields sep cs := by
  induction f with
  | nil => simp
  | cons c f ih =>
    have hc : c ≠ sep := fun e => h (e ▸ List.mem_cons_self)
    have hf : sep ∉ f := fun m => h (List.mem_cons_of_mem _ m)
    simp [fields_cons_of_ne hc, ih hf]

/-- No field holds a separator. -/
theorem not_mem_of_mem_fields {sep : Char} {cs f : List Char} (h : f ∈ fields sep cs) :
    sep ∉ f := by
  induction cs generalizing f with
  | nil => simp_all
  | cons c cs ih =>
    by_cases hc : c = sep
    · subst hc
      simp only [fields_cons_self, List.mem_cons] at h
      rcases h with rfl | h
      · simp
      · exact ih h
    · rw [fields_cons_of_ne hc] at h
      cases hf : fields sep cs with
      | nil => exact absurd hf (fields_ne_nil sep cs)
      | cons g gs =>
        rw [hf] at h ih
        simp only [List.modifyHead_cons, List.mem_cons] at h
        rcases h with rfl | h
        · simp only [List.mem_cons, not_or]
          exact ⟨Ne.symm hc, ih List.mem_cons_self⟩
        · exact ih (List.mem_cons_of_mem _ h)

theorem join_cons_of_ne_nil (sep : Char) (f : List Char) {fs : List (List Char)} (h : fs ≠ []) :
    join sep (f :: fs) = f ++ sep :: join sep fs := by
  cases fs with
  | nil => exact absurd rfl h
  | cons g gs => rfl

/-- Joining the fields of a text gives the text. -/
theorem join_fields (sep : Char) (cs : List Char) : join sep (fields sep cs) = cs := by
  induction cs with
  | nil => rfl
  | cons c cs ih =>
    by_cases hc : c = sep
    · subst hc
      rw [fields_cons_self, join_cons_of_ne_nil _ _ (fields_ne_nil _ _), ih, List.nil_append]
    · rw [fields_cons_of_ne hc]
      cases hf : fields sep cs with
      | nil => exact absurd hf (fields_ne_nil sep cs)
      | cons f fs =>
        rw [hf] at ih
        cases fs with
        | nil => simpa [join] using ih
        | cons g gs => simpa [join] using ih

/-- Fields without separators are what a reader finds in the joined text. -/
theorem fields_join {sep : Char} {fs : List (List Char)} (hne : fs ≠ [])
    (h : ∀ f ∈ fs, sep ∉ f) : fields sep (join sep fs) = fs := by
  induction fs with
  | nil => exact absurd rfl hne
  | cons f fs ih =>
    have hf : sep ∉ f := h f List.mem_cons_self
    cases fs with
    | nil => simpa [join] using fields_of_not_mem hf
    | cons g gs =>
      have hgs : ∀ x ∈ g :: gs, sep ∉ x := fun x hx => h x (List.mem_cons_of_mem _ hx)
      rw [join_cons_of_ne_nil _ _ (by simp), fields_append_cons hf, ih (by simp) hgs]

/-- The first separator is the one behind a text that holds none. -/
theorem cut_append_cons {sep : Char} {f : List Char} (h : sep ∉ f) (cs : List Char) :
    cut sep (f ++ sep :: cs) = some (f, cs) := by
  induction f with
  | nil => simp [cut]
  | cons c f ih =>
    have hc : c ≠ sep := fun e => h (e ▸ List.mem_cons_self)
    have hf : sep ∉ f := fun m => h (List.mem_cons_of_mem _ m)
    simp [cut, hc, ih hf]

/-- A cut gives back the text it was made in, and takes the first separator. -/
theorem cut_eq_some {sep : Char} {cs before after : List Char}
    (h : cut sep cs = some (before, after)) : cs = before ++ sep :: after ∧ sep ∉ before := by
  induction cs generalizing before with
  | nil => simp [cut] at h
  | cons c cs ih =>
    by_cases hc : c = sep
    · simp only [cut, hc, if_true, Option.some.injEq, Prod.mk.injEq] at h
      obtain ⟨rfl, rfl⟩ := h
      simp [hc]
    · simp only [cut, hc, if_false, Option.map_eq_some_iff, Prod.mk.injEq] at h
      obtain ⟨⟨b, a⟩, hb, rfl, rfl⟩ := h
      obtain ⟨hcs, hnot⟩ := ih hb
      exact ⟨by simp [hcs], by simp [hnot, Ne.symm hc]⟩

/-! ## Tests -/

example : fields ',' "a,,b".toList = ["a".toList, [], "b".toList] := by decide
example : fields ',' [] = [[]] := by decide
example : cut '=' "k=v=w".toList = some ("k".toList, "v=w".toList) := by decide
example : join ':' ["1".toList, "2".toList, []] = "1:2:".toList := by decide

end Telemetry.Text
