import Telemetry.Text.Quoted
import Telemetry.Value

/-!
# Fields of spans and events

Instrumented code says what it works on in named fields.  A field has a value of one of many kinds,
or none as yet, and an empty field says nothing.

The fields of a span become attributes.  Booleans, integers, doubles and texts are kept as they are.
An integer of 128 bits is kept as a number when it fits into 64 bits, and as its decimal text
otherwise.  All other values are kept as the text that they show.  A name that is written twice
keeps its last value.

The fields of an event are looked at for a message only: the field `message`, and if it says
nothing the field `error`.  There every value counts as its text, doubles and quoted texts in the
form that they have in descriptions.
-/

namespace Telemetry

/-! ## Values -/

/-- The value of a field. -/
inductive FieldValue where
  /-- A truth value. -/
  | bool (value : Bool)
  /-- A signed integer of 64 bits. -/
  | i64 (value : Int64)
  /-- An unsigned integer of 64 bits. -/
  | u64 (value : UInt64)
  /-- A signed integer of 128 bits. -/
  | i128 (value : Int)
  /-- An unsigned integer of 128 bits. -/
  | u128 (value : Nat)
  /-- A double precision number. -/
  | f64 (value : Binary64)
  /-- A text. -/
  | str (text : String)
  /-- Something that shows itself as a text. -/
  | shown (text : String)
  /-- A text that is described, and so stands between quotes. -/
  | quoted (text : String)
  /-- An error with its message. -/
  | error (message : String)
deriving DecidableEq, Repr

namespace FieldValue

/-- The attribute that a value of a field becomes. -/
def asValue : FieldValue → Value
  | .bool b => .bool b
  | .i64 n => .i64 n
  | .u64 n => .u64 n
  | .i128 n => if Int64.minValue.toInt ≤ n ∧ n ≤ Int64.maxValue.toInt then .i64 (Int64.ofInt n) else .str (toString n)
  | .u128 n => if n < UInt64.size then .u64 (UInt64.ofNat n) else .str (toString n)
  | .f64 x => .f64 x
  | .str s => .str s
  | .shown s => .str s
  | .quoted s => .str (Text.quote s)
  | .error s => .str s

/-- The message that a value of a field is. -/
def message : FieldValue → String
  | .bool b => if b then "true" else "false"
  | .i64 n => toString n.toInt
  | .u64 n => toString n.toNat
  | .i128 n => toString n
  | .u128 n => toString n
  | .f64 x => x.text .detailed
  | .str s => s
  | .shown s => s
  | .quoted s => Text.quote s
  | .error s => s

end FieldValue

/-! ## Fields -/

/-- Named values, of which some are empty. -/
abbrev Fields := List (String × Option FieldValue)

namespace Fields

/-- The last value that a name has. -/
def last? (fs : Fields) (name : String) : Option FieldValue :=
  fs.reverse.findSome? fun (n, v) => if n = name then v else none

/-- The names of the fields. -/
def names (fs : Fields) : List String := fs.map (·.1)

/-- The fields that have one of some names. -/
def among (fs : Fields) (declared : List String) : Fields := fs.filter fun f => declared.contains f.1

/-- What an event with these fields says. -/
def message (fs : Fields) : String :=
  match (fs.last? "message").or (fs.last? "error") with
  | some v => v.message
  | none => ""

end Fields

/-- The attributes with one more field. -/
def Attributes.noting (a : Attributes) (field : String × Option FieldValue) : Attributes :=
  match field.2 with
  | some v => a.insert field.1 v.asValue
  | none => a

/-- The attributes with the fields that say something. -/
def Attributes.notingAll (a : Attributes) (fs : Fields) : Attributes := fs.foldl Attributes.noting a

/-! ## Laws -/

theorem Fields.last?_append (fs gs : Fields) (name : String) :
    Fields.last? (fs ++ gs) name = (gs.last? name).or (fs.last? name) := by
  simp only [Fields.last?, List.reverse_append, List.findSome?_append]

theorem Fields.last?_singleton (field : String × Option FieldValue) (name : String) :
    Fields.last? [field] name = if field.1 = name then field.2 else none := by
  simp only [Fields.last?, List.reverse_singleton, List.findSome?_cons, List.findSome?_nil]
  split <;> rename_i h <;> simp [h]

theorem Attributes.get?_noting (a : Attributes) (field : String × Option FieldValue) (name : String) :
    (a.noting field).get? name
      = (((if field.1 = name then field.2 else none).map FieldValue.asValue).or (a.get? name)) := by
  unfold Attributes.noting
  cases field.2 with
  | none => simp
  | some v =>
    by_cases h : field.1 = name
    · simp [SortedMap.get?_insert, h]
    · have h' : name ≠ field.1 := fun e => h e.symm
      simp [SortedMap.get?_insert, h, h']

/-- A name has the last value that a field gives it, and where no field does the value it had. -/
theorem Attributes.get?_notingAll (a : Attributes) (fs : Fields) (name : String) :
    (a.notingAll fs).get? name = ((fs.last? name).map FieldValue.asValue).or (a.get? name) := by
  induction fs generalizing a with
  | nil => simp [Attributes.notingAll, Fields.last?]
  | cons f fs ih =>
    have step : a.notingAll (f :: fs) = (a.noting f).notingAll fs := rfl
    have split : Fields.last? (f :: fs) name = (Fields.last? fs name).or (Fields.last? [f] name) :=
      Fields.last?_append [f] fs name
    rw [step, ih, Attributes.get?_noting, split, Fields.last?_singleton]
    cases Fields.last? fs name <;> simp

/-! ## Tests -/

example : (FieldValue.i128 9223372036854775807).asValue = .i64 9223372036854775807
    ∧ (FieldValue.i128 9223372036854775808).asValue = .str "9223372036854775808" := by decide +kernel
example : (FieldValue.u128 18446744073709551616).asValue = .str "18446744073709551616" := by decide +kernel
example : (FieldValue.quoted "a\"b").asValue = .str "\"a\\\"b\"" := by decide +kernel
example : Fields.message [("error", some (.str "e")), ("message", none)] = "e" := by decide +kernel
example : Fields.message [("message", some (.f64 (.ofInt 1))), ("error", some (.str "e"))] = "1.0" := by
  decide +kernel
example : Fields.message [("message", some (.str "a")), ("message", some (.str "b"))] = "b" := by
  decide +kernel

end Telemetry
