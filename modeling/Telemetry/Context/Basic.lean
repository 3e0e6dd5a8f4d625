import Telemetry.Baggage
import Telemetry.Text.Quoted
import Telemetry.Trace.SpanContext

/-!
# Contexts

A context is an immutable set of typed values that goes along a chain of calls: the span that
caused them, the baggage of the request, and whatever an application puts in under keys of its own.
Setting a value makes a new context and leaves the one it came from alone.

A key is a number that no other key has, and its name is for descriptions only, so two keys of one
name are two keys.  The type of a value is told by the *kind* of its key, and an entry carries the
kind of its value.  The two keys of the library have the first numbers.
-/

namespace Telemetry

/-! ## Keys -/

/-- What kind of value a key stands for. -/
inductive Kind where
  /-- A span context. -/
  | spanContext
  /-- Baggage. -/
  | baggage
  /-- A text. -/
  | text
  /-- An integer. -/
  | integer
deriving DecidableEq, Repr

/-- The values of a kind. -/
abbrev Kind.Content : Kind → Type
  | .spanContext => SpanContext
  | .baggage => Baggage
  | .text => String
  | .integer => Int

instance (k : Kind) : DecidableEq k.Content :=
  match k with
  | .spanContext => inferInstanceAs (DecidableEq SpanContext)
  | .baggage => inferInstanceAs (DecidableEq Baggage)
  | .text => inferInstanceAs (DecidableEq String)
  | .integer => inferInstanceAs (DecidableEq Int)

/-- A key for the values of a kind. -/
structure Key (k : Kind) where
  /-- The number that tells it from other keys. -/
  id : Nat
  /-- The name it has in descriptions. -/
  name : String
deriving DecidableEq, Repr

/-- The key of the span context. -/
def spanContextKey : Key .spanContext := ⟨0, "span-context"⟩

/-- The key of the baggage. -/
def baggageKey : Key .baggage := ⟨1, "baggage"⟩

/-- The number of the first key that an application makes. -/
def firstKey : Nat := 2

/-- A key as descriptions show it, with a text for its number. -/
def Key.describe {k : Kind} (key : Key k) (number : String) : String :=
  Text.describeRecord "ContextKey" [("id", number), ("name", Text.quote key.name)]

/-! ## Entries -/

/-- A value in a context. -/
structure Entry where
  /-- The name of its key. -/
  name : String
  /-- Its kind. -/
  kind : Kind
  /-- The value. -/
  content : kind.Content
deriving DecidableEq

/-- The value of an entry, if it is of the kind. -/
def Entry.content? (e : Entry) (k : Kind) : Option k.Content :=
  if h : e.kind = k then some (h ▸ e.content) else none

@[simp] theorem Entry.content?_mk (name : String) (k : Kind) (v : k.Content) :
    (Entry.mk name k v).content? k = some v := by
  simp [Entry.content?]

/-! ## Contexts -/

/-- An immutable set of typed values. -/
structure Context where
  /-- The values by the numbers of their keys. -/
  entries : SortedMap Nat Entry
deriving DecidableEq

namespace Context

/-- The context without values. -/
def empty : Context := ⟨.empty⟩

instance : Inhabited Context := ⟨empty⟩

/-- Whether there is no value, not even an empty one. -/
def isEmpty (cx : Context) : Bool := cx.entries.isEmpty

/-- The context with the value of a key set. -/
def set {k : Kind} (cx : Context) (key : Key k) (v : k.Content) : Context :=
  ⟨cx.entries.insert key.id ⟨key.name, k, v⟩⟩

/-- The value of a key. -/
def get? {k : Kind} (cx : Context) (key : Key k) : Option k.Content :=
  (cx.entries.get? key.id).bind (·.content? k)

/-- The span context, which stands for none when there is none. -/
def span (cx : Context) : SpanContext := (cx.get? spanContextKey).getD .invalid

/-- Whether there is a span. -/
def hasSpan (cx : Context) : Bool := cx.span.isValid

/-- The context with a span context. -/
def withSpan (cx : Context) (s : SpanContext) : Context := cx.set spanContextKey s

/-- The context with a span context of another service. -/
def withRemoteSpan (cx : Context) (s : SpanContext) : Context := cx.withSpan { s with isRemote := true }

/-- The baggage, which is empty when there is none. -/
def baggage (cx : Context) : Baggage := (cx.get? baggageKey).getD .empty

/-- The context with baggage. -/
def withBaggage (cx : Context) (b : Baggage) : Context := cx.set baggageKey b

/-- The names of the keys that have a value, in the order in which the keys were made. -/
def names (cx : Context) : List String := cx.entries.toList.map (·.2.name)

/-- The context as descriptions show it. -/
def describe (cx : Context) : String :=
  Text.describeRecord "Context" [("entries", Text.bracketed (cx.names.map Text.quote))]

/-! ## Laws -/

@[simp] theorem get?_empty {k : Kind} (key : Key k) : empty.get? key = none := rfl

@[simp] theorem get?_set_self {k : Kind} (cx : Context) (key : Key k) (v : k.Content) :
    (cx.set key v).get? key = some v := by
  simp [get?, set, SortedMap.get?_insert]

theorem get?_set_of_ne {k l : Kind} (cx : Context) {key : Key k} {other : Key l} (v : k.Content)
    (h : other.id ≠ key.id) : (cx.set key v).get? other = cx.get? other := by
  simp [get?, set, SortedMap.get?_insert, h]

theorem set_set_self {k : Kind} (cx : Context) (key : Key k) (v w : k.Content) :
    (cx.set key v).set key w = cx.set key w :=
  congrArg Context.mk (SortedMap.insert_insert_self ..)

theorem set_set_comm {k l : Kind} (cx : Context) {key : Key k} {other : Key l} (h : key.id ≠ other.id)
    (v : k.Content) (w : l.Content) : (cx.set key v).set other w = (cx.set other w).set key v :=
  congrArg Context.mk (SortedMap.insert_comm _ h ..)

@[simp] theorem span_withSpan (cx : Context) (s : SpanContext) : (cx.withSpan s).span = s := by
  simp [span, withSpan]

@[simp] theorem baggage_withBaggage (cx : Context) (b : Baggage) : (cx.withBaggage b).baggage = b := by
  simp [baggage, withBaggage]

@[simp] theorem baggage_withSpan (cx : Context) (s : SpanContext) :
    (cx.withSpan s).baggage = cx.baggage := by
  simp [baggage, withSpan, get?_set_of_ne, spanContextKey, baggageKey]

@[simp] theorem span_withBaggage (cx : Context) (b : Baggage) : (cx.withBaggage b).span = cx.span := by
  simp [span, withBaggage, get?_set_of_ne, spanContextKey, baggageKey]

/-! ## Tests -/

example : (empty.withBaggage .empty).isEmpty = false ∧ (empty.withBaggage .empty).baggage.isEmpty = true := by
  decide
example : (empty.withBaggage .empty |>.withSpan .invalid).describe
    = "Context \x7b entries: [\"span-context\", \"baggage\"] \x7d" := by decide +kernel

end Context

end Telemetry
