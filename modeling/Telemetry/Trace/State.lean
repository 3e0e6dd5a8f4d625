import Telemetry.Text.Blank
import Telemetry.Text.Fields

/-!
# Trace state

Vendors pass data of their own along a trace, as members `key=value` with commas between them, the
one that was set last in front.  A header is taken as a whole or not at all: one malformed member,
a repeated key, or more than 32 members leave nothing of it.  Setting a member puts it in front and
lets the last one go when there would be more than 32.
-/

namespace Telemetry

/-- The members of a trace state, the one set last first. -/
structure TraceState where
  /-- Keys and values. -/
  members : List (String × String)
deriving DecidableEq, Repr

namespace TraceState

/-- The state without members. -/
def empty : TraceState := ⟨[]⟩

instance : Inhabited TraceState := ⟨empty⟩

/-- Whether there is no member. -/
def isEmpty (s : TraceState) : Bool := s.members.isEmpty

/-- The most members a state has. -/
def maxMembers : Nat := 32

/-! ## Keys and values -/

/-- The characters of a key. -/
def isKeyChar (c : Char) : Bool :=
  ('a' ≤ c && c ≤ 'z') || ('0' ≤ c && c ≤ '9') || ['_', '-', '*', '/', '@'].contains c

/-- The characters of a value: those of printable ASCII but the two that delimit members. -/
def isValueChar (c : Char) : Bool := ' ' ≤ c && c ≤ '~' && c != ',' && c != '='

/-- From one to 256 characters of a class. -/
def isWord (allowed : Char → Bool) (cs : List Char) : Bool :=
  !cs.isEmpty && cs.length ≤ 256 && cs.all allowed

/-- A key that a member may have. -/
def isKey (cs : List Char) : Bool := isWord isKeyChar cs

/-- A value that a member may have. -/
def isValue (cs : List Char) : Bool := isWord isValueChar cs

/-! ## Headers -/

/-- A member, cut at its first equals sign. -/
def member? (cs : List Char) : Option (String × String) :=
  (Text.cut '=' cs).bind fun (key, value) =>
    if isKey key && isValue value then some (String.ofList key, String.ofList value) else none

/-- The members written in a header, without the blanks around them and without empty ones. -/
def written (header : List Char) : List (List Char) :=
  ((Text.fields ',' header).map Text.trim).filter (!·.isEmpty)

/-- The members of a header, if it is well formed. -/
def members? (header : List Char) : Option (List (String × String)) :=
  ((written header).mapM member?).filter fun ms =>
    decide ((ms.map (·.1)).Nodup) && ms.length ≤ maxMembers

/-- The state that a header writes, which is empty when any part of it is malformed. -/
def ofHeader (header : String) : TraceState := ⟨(members? header.toList).getD []⟩

/-- One member as it is written. -/
def memberText (m : String × String) : List Char := m.1.toList ++ '=' :: m.2.toList

/-- The state as a header. -/
def header (s : TraceState) : String := String.ofList (Text.join ',' (s.members.map memberText))

/-! ## Members -/

/-- The value of a key. -/
def get? (s : TraceState) (key : String) : Option String :=
  (s.members.find? (·.1 == key)).map (·.2)

/-- The state with a member set and in front, if its key and its value are well formed. -/
def insert? (s : TraceState) (key value : String) : Option TraceState :=
  if isKey key.toList && isValue value.toList then
    some ⟨((key, value) :: s.members.filter (·.1 != key)).take maxMembers⟩
  else none

/-! ## Tests -/

example : (ofHeader "foo=1, bar=2,, ").members = [("foo", "1"), ("bar", "2")] := by decide
example : ofHeader "foo=1,bar" = empty ∧ ofHeader "foo=1,foo=2" = empty := by decide
example : (ofHeader "foo=1, bar=2").header = "foo=1,bar=2" := by decide
example : ((ofHeader "foo=1,bar=2").insert? "bar" "3").map header = some "bar=3,foo=1" := by decide
example : (ofHeader "foo=1").insert? "Foo" "1" = none ∧ (ofHeader "foo=1").get? "foo" = some "1" := by decide

end TraceState

end Telemetry
