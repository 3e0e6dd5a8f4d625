import Telemetry.SortedMap
import Telemetry.Text.LowerCase

/-!
# Carriers

A carrier is what a request has its headers in.  Propagators read and write it through two classes
only, so that any shape of carrier works with any propagator.

Two carriers are here.  A `HeaderMap` has each name once, and names compare without regard to case:
names are asked for and written in lower case.  A `HeaderList` keeps what was added in order, a
name possibly several times, and compares names exactly.
-/

namespace Telemetry

/-! ## Access -/

/-- Carriers that headers are read from. -/
class HeaderSource (γ : Type) where
  /-- The value of a name. -/
  get? : γ → String → Option String
  /-- The names that occur. -/
  names : γ → List String
  /-- All values of a name, if it occurs. -/
  getAll? : γ → String → Option (List String) := fun c name => (get? c name).map fun v => [v]

/-- Carriers that headers are written to. -/
class HeaderSink (γ : Type) where
  /-- The carrier with a name set to a value. -/
  put : γ → String → String → γ

/-! ## Maps -/

/-- Headers by name, each name once. -/
structure HeaderMap where
  /-- The headers. -/
  entries : SortedMap String String
deriving DecidableEq

namespace HeaderMap

/-- The map without headers. -/
def empty : HeaderMap := ⟨.empty⟩

/-- The map of pairs, of which a later one replaces an earlier one.  Names stay as they are. -/
def ofList (pairs : List (String × String)) : HeaderMap := ⟨.ofList pairs⟩

/-- The form of a name in which it is asked for and written. -/
def canonical (name : String) : String := String.ofList (Text.lowerCase name.toList)

/-- The value of a name. -/
def get? (m : HeaderMap) (name : String) : Option String := m.entries.get? (canonical name)

/-- The map with a name set to a value. -/
def put (m : HeaderMap) (name value : String) : HeaderMap := ⟨m.entries.insert (canonical name) value⟩

instance : HeaderSource HeaderMap where
  get? := get?
  names m := m.entries.keys

instance : HeaderSink HeaderMap := ⟨put⟩

end HeaderMap

/-! ## Lists -/

/-- Headers in the order in which they were added. -/
structure HeaderList where
  /-- The headers. -/
  entries : List (String × String)
deriving DecidableEq

namespace HeaderList

/-- The list without headers. -/
def empty : HeaderList := ⟨[]⟩

/-- All values of a name, if it occurs. -/
def getAll? (l : HeaderList) (name : String) : Option (List String) :=
  match l.entries.filter (·.1 == name) with
  | [] => none
  | found => some (found.map (·.2))

instance : HeaderSource HeaderList where
  get? l name := l.entries.lookup name
  names l := l.entries.map (·.1)
  getAll? := getAll?

instance : HeaderSink HeaderList := ⟨fun l name value => ⟨l.entries ++ [(name, value)]⟩⟩

end HeaderList

/-! ## Either -/

/-- A carrier of either shape. -/
inductive Headers where
  /-- A map. -/
  | map (headers : HeaderMap)
  /-- A list. -/
  | list (headers : HeaderList)
deriving DecidableEq

namespace Headers

/-- The headers, those of a map in the order of their names. -/
def entries : Headers → List (String × String)
  | .map m => m.entries.toList
  | .list l => l.entries

/-- A carrier of the same shape without headers. -/
def cleared : Headers → Headers
  | .map _ => .map .empty
  | .list _ => .list .empty

instance : HeaderSource Headers where
  get?
    | .map m, name => HeaderSource.get? m name
    | .list l, name => HeaderSource.get? l name
  names
    | .map m => HeaderSource.names m
    | .list l => HeaderSource.names l
  getAll?
    | .map m, name => HeaderSource.getAll? m name
    | .list l, name => HeaderSource.getAll? l name

instance : HeaderSink Headers where
  put
    | .map m, name, value => .map (HeaderSink.put m name value)
    | .list l, name, value => .list (HeaderSink.put l name value)

end Headers

/-! ## Laws -/

theorem HeaderMap.get?_put (m : HeaderMap) (name other value : String) :
    (m.put name value).get? other
      = if canonical other = canonical name then some value else m.get? other :=
  SortedMap.get?_insert _ _ _ _

/-! ## Tests -/

example : (HeaderMap.empty.put "TraceParent" "x").get? "traceparent" = some "x" := by decide
/-- A name that is stored in capitals cannot be asked for. -/
example : (HeaderMap.ofList [("B3", "x")]).get? "b3" = none := by decide
example : HeaderList.getAll? ⟨[("a", "1"), ("b", "2"), ("a", "3")]⟩ "a" = some ["1", "3"] := by decide

end Telemetry
