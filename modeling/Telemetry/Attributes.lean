import Telemetry.Value

/-!
# Attributes as keys

The measurements of an instrument are kept apart by their attributes.  Two sets of attributes are
one key when they have the same names with the same values, doubles compared by their bits.  So a
NaN finds its own stream again, and the two zeros have one each.

A table that hashes its keys feeds them to a hasher piece by piece.  `Attributes.feed` is what a set
of attributes feeds, and `feed_eq_of_sameKey` says that two sets that are one key feed the same.
-/

namespace Telemetry

/-! ## Pieces for a hasher -/

/-- A piece of a key. -/
inductive HashPiece where
  /-- The length of what follows. -/
  | length (n : Nat)
  /-- The kind of the value that follows. -/
  | kind (n : Nat)
  /-- A truth value. -/
  | truth (b : Bool)
  /-- A signed number. -/
  | signed (n : Int64)
  /-- An unsigned number, or the bits of a double. -/
  | word (bits : UInt64)
  /-- A text. -/
  | text (s : String)
deriving DecidableEq, Repr

namespace Value

mutual

/-- The pieces of a value: its kind, and then its content. -/
def feed : Value → List HashPiece
  | .bool b => [.kind 0, .truth b]
  | .i64 n => [.kind 1, .signed n]
  | .u64 n => [.kind 2, .word n]
  | .f64 x => [.kind 3, .word x.bits]
  | .str s => [.kind 4, .text s]
  | .array values => .kind 5 :: .length values.length :: feedAll values
termination_by structural v => v

/-- The pieces of several values. -/
def feedAll : List Value → List HashPiece
  | [] => []
  | v :: vs => feed v ++ feedAll vs
termination_by structural vs => vs

end

end Value

namespace Attributes

/-- The pieces of a set of attributes: how many there are, and each name with its value. -/
def feed (a : Attributes) : List HashPiece :=
  .length a.size :: a.toList.flatMap fun (name, value) => .text name :: value.feed

/-! ## Keys -/

/-- Whether two sets of attributes are one key. -/
def sameKey (a b : Attributes) : Bool :=
  a.size == b.size
    && (a.toList.zip b.toList).all fun (x, y) => x.1 == y.1 && x.2.sameBits y.2

theorem eq_of_zip_all {xs ys : List (String × Value)} (hl : xs.length = ys.length)
    (h : (xs.zip ys).all (fun (x, y) => x.1 == y.1 && x.2.sameBits y.2) = true) : xs = ys := by
  induction xs generalizing ys with
  | nil => cases ys with
    | nil => rfl
    | cons y ys => simp at hl
  | cons x xs ih =>
    cases ys with
    | nil => simp at hl
    | cons y ys =>
      simp only [List.zip_cons_cons, List.all_cons, Bool.and_eq_true, beq_iff_eq] at h
      have hx : x = y := Prod.ext h.1.1 (Value.eq_of_sameBits h.1.2)
      rw [hx, ih (by simpa using hl) h.2]

theorem eq_of_mem_zip_self {α : Type} {xs : List α} {x y : α} (h : (x, y) ∈ xs.zip xs) : x = y := by
  induction xs with
  | nil => simp at h
  | cons z zs ih =>
    simp only [List.zip_cons_cons, List.mem_cons, Prod.mk.injEq] at h
    rcases h with ⟨rfl, rfl⟩ | h
    · rfl
    · exact ih h

/-- Two sets are one key exactly when they are equal. -/
theorem sameKey_iff {a b : Attributes} : sameKey a b = true ↔ a = b := by
  constructor
  · intro h
    simp only [sameKey, Bool.and_eq_true, beq_iff_eq] at h
    obtain ⟨xs, hx⟩ := a
    obtain ⟨ys, hy⟩ := b
    have : xs = ys := eq_of_zip_all h.1 h.2
    subst this
    rfl
  · rintro rfl
    simp only [sameKey, Bool.and_eq_true, beq_self_eq_true, true_and, List.all_eq_true]
    intro e he
    obtain ⟨x, y⟩ := e
    have hxy : x = y := eq_of_mem_zip_self he
    subst hxy
    simp [Value.sameBits_refl]

/-- Two sets that are one key feed the same pieces. -/
theorem feed_eq_of_sameKey {a b : Attributes} (h : sameKey a b = true) : a.feed = b.feed := by
  rw [sameKey_iff.mp h]

end Attributes

/-! ## Tests -/

example : Attributes.sameKey (.ofList [("x", .f64 .nan)]) (.ofList [("x", .f64 .nan)]) = true := by
  decide +kernel
example : Attributes.sameKey (.ofList [("x", .f64 ⟨0⟩)]) (.ofList [("x", .f64 ⟨0x8000000000000000⟩)]) = false := by
  decide +kernel

end Telemetry
