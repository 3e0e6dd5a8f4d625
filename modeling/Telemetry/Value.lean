import Telemetry.Binary64.Text
import Telemetry.SortedMap

/-!
# Attribute values

An attribute is a name with a value, and a value is a scalar or an array of values.  Two values are
the same when they have the same shape and the same leaves, doubles compared by their bits, and
`sameBits` decides this (`sameBits_iff`).  The equality of the doubles themselves gives a second
comparison, `agrees`, under which a value that holds a NaN differs from itself.
-/

namespace Telemetry

/-- The value of an attribute. -/
inductive Value where
  /-- A truth value. -/
  | bool (value : Bool)
  /-- A signed integer. -/
  | i64 (value : Int64)
  /-- An unsigned integer. -/
  | u64 (value : UInt64)
  /-- A double precision number. -/
  | f64 (value : Binary64)
  /-- A text. -/
  | str (value : String)
  /-- Several values. -/
  | array (values : List Value)
deriving Repr, Inhabited

namespace Value

/-! ## Sameness -/

mutual

/-- Whether two values are the same, doubles compared by their bits. -/
def sameBits : Value → Value → Bool
  | .bool a, .bool b => a == b
  | .i64 a, .i64 b => a == b
  | .u64 a, .u64 b => a == b
  | .f64 a, .f64 b => a.bits == b.bits
  | .str a, .str b => a == b
  | .array as, .array bs => allSameBits as bs
  | _, _ => false
termination_by structural a => a

/-- Whether two rows of values have the same length and the same values in it. -/
def allSameBits : List Value → List Value → Bool
  | [], [] => true
  | a :: as, b :: bs => sameBits a b && allSameBits as bs
  | _, _ => false
termination_by structural as => as

end

mutual

theorem eq_of_sameBits : ∀ {a b : Value}, sameBits a b = true → a = b
  | .bool a, b, h => by cases b <;> simp_all [sameBits]
  | .i64 a, b, h => by cases b <;> simp_all [sameBits]
  | .u64 a, b, h => by cases b <;> simp_all [sameBits]
  | .f64 ⟨a⟩, b, h => by
    cases b with
    | f64 b => obtain ⟨b⟩ := b; simp_all [sameBits]
    | _ => simp [sameBits] at h
  | .str a, b, h => by cases b <;> simp_all [sameBits]
  | .array as, b, h => by
    cases b with
    | array bs =>
      have hs : allSameBits as bs = true := by simpa [sameBits] using h
      rw [eq_of_allSameBits hs]
    | _ => simp [sameBits] at h

theorem eq_of_allSameBits : ∀ {as bs : List Value}, allSameBits as bs = true → as = bs
  | [], bs, h => by cases bs <;> simp_all [allSameBits]
  | a :: as, bs, h => by
    cases bs with
    | nil => simp [allSameBits] at h
    | cons b bs =>
      simp only [allSameBits, Bool.and_eq_true] at h
      rw [eq_of_sameBits h.1, eq_of_allSameBits h.2]

end

mutual

theorem sameBits_refl : ∀ a : Value, sameBits a a = true
  | .bool _ | .i64 _ | .u64 _ | .f64 _ | .str _ => by simp [sameBits]
  | .array as => by simpa [sameBits] using allSameBits_refl as

theorem allSameBits_refl : ∀ as : List Value, allSameBits as as = true
  | [] => rfl
  | a :: as => by simp [allSameBits, sameBits_refl a, allSameBits_refl as]

end

/-- The comparison by bits is equality. -/
theorem sameBits_iff {a b : Value} : sameBits a b = true ↔ a = b :=
  ⟨eq_of_sameBits, fun h => h ▸ sameBits_refl a⟩

instance : DecidableEq Value := fun _ _ => decidable_of_iff _ sameBits_iff

/-! ## Equality as numbers -/

mutual

/-- Whether two values are equal when doubles are compared as numbers. -/
def agrees : Value → Value → Bool
  | .bool a, .bool b => a == b
  | .i64 a, .i64 b => a == b
  | .u64 a, .u64 b => a == b
  | .f64 a, .f64 b => a.agrees b
  | .str a, .str b => a == b
  | .array as, .array bs => allAgree as bs
  | _, _ => false
termination_by structural a => a

/-- Whether two rows of values have the same length and agreeing values in it. -/
def allAgree : List Value → List Value → Bool
  | [], [] => true
  | a :: as, b :: bs => agrees a b && allAgree as bs
  | _, _ => false
termination_by structural as => as

end

/-! ## Text -/

mutual

/-- The value as it is shown. -/
def text : Value → String
  | .bool b => if b then "true" else "false"
  | .i64 n => toString n.toInt
  | .u64 n => toString n.toNat
  | .f64 x => x.text .plain
  | .str s => s
  | .array values => "[" ++ String.intercalate "," (texts values) ++ "]"
termination_by structural v => v

/-- Several values as they are shown. -/
def texts : List Value → List String
  | [] => []
  | v :: vs => text v :: texts vs
termination_by structural vs => vs

end

end Value

/-! ## Attributes -/

/-- Named values, in the order of their names. -/
abbrev Attributes := SortedMap String Value

/-! ## Tests -/

example : Value.sameBits (.f64 .nan) (.f64 .nan) = true ∧ Value.agrees (.f64 .nan) (.f64 .nan) = false := by
  decide +kernel
example : Value.sameBits (.array [.f64 ⟨0⟩]) (.array [.f64 ⟨0x8000000000000000⟩]) = false
    ∧ Value.agrees (.array [.f64 ⟨0⟩]) (.array [.f64 ⟨0x8000000000000000⟩]) = true := by decide +kernel
example : Value.agrees (.i64 1) (.u64 1) = false := by decide
example : (Value.array [.i64 (-1), .str "a,b", .array []]).text = "[-1,a,b,[]]" := by decide +kernel

end Telemetry
