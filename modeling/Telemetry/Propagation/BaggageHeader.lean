import Telemetry.Context.Basic
import Telemetry.Propagation.Carrier
import Telemetry.Text.Blank
import Telemetry.Text.Fields
import Telemetry.Text.Percent

/-!
# The baggage header

Baggage travels in the header `baggage`, as members `name=value` with commas between them.  Names
and values are percent encoded.  A member may have properties behind a semicolon, which are not
kept.

Three limits keep a header from being a burden: one that is too long is not read at all, of more
than so many members the rest is not read, and a member that is too long is passed over.  What is
read is merged into the baggage that the context has.
-/

namespace Telemetry

namespace BaggageHeader

/-- The header. -/
def headerName : String := "baggage"

/-- The most bytes of a header that is read. -/
def maxHeaderLength : Nat := 9182

/-- The most members that are read. -/
def maxMembers : Nat := 180

/-- The most bytes of a member that is read. -/
def maxMemberLength : Nat := 4096

/-! ## Writing -/

/-- The ASCII characters that are escaped in names and values. -/
def isEscaped (c : Char) : Bool :=
  Text.isAsciiControl c || [' ', '"', ',', ';', '=', '\\', '%'].contains c

/-- One member. -/
def writeMember (name value : String) : List Char :=
  Text.encodePercent isEscaped name.toList ++ '=' :: Text.encodePercent isEscaped value.toList

/-- The header of baggage. -/
def write (b : Baggage) : List Char :=
  Text.join ',' (b.toList.map fun (name, value) => writeMember name value)

/-- Writes the baggage of a context, if there is any. -/
def inject {γ : Type} [HeaderSink γ] (cx : Context) (c : γ) : γ :=
  if cx.baggage.isEmpty then c else HeaderSink.put c headerName (String.ofList (write cx.baggage))

/-! ## Reading -/

/-- A text without its percent encoding and without the blanks around it. -/
def readText (cs : List Char) : String := String.ofList (Text.decodePercent (Text.trim cs))

/-- The name and the value of a member, if it has both. -/
def readMember? (member : List Char) : Option (String × String) :=
  if maxMemberLength < Text.byteLength member then none
  else
    let bare := (Text.fields ';' member).headD []
    (Text.cut '=' bare).bind fun (name, value) =>
      if (readText name).isEmpty then none else some (readText name, readText value)

/-- The names and values of a header, in order. -/
def read (header : List Char) : List (String × String) :=
  if maxHeaderLength < Text.byteLength header then []
  else ((Text.fields ',' header).take maxMembers).filterMap readMember?

/-- The context with what was found merged into its baggage, if anything was found. -/
def merge (cx : Context) (found : List (String × String)) : Context :=
  if found.isEmpty then cx else cx.withBaggage (cx.baggage.insertAll found)

/-- The names and values of a carrier, in order. -/
def carried {γ : Type} [HeaderSource γ] (c : γ) : List (String × String) :=
  ((HeaderSource.get? c headerName).map fun header => read header.toList).getD []

/-- The context with the baggage of a carrier. -/
def extract {γ : Type} [HeaderSource γ] (cx : Context) (c : γ) : Context := merge cx (carried c)

/-- The headers that may be written. -/
def fields : List String := [headerName]

/-! ## Tests -/

example : String.ofList (write (.ofList [("user id", "a=b"), ("é", "")])) = "user%20id=a%3Db,%C3%A9=" := by
  decide +kernel
example : read "a = 1 ;p=2, b=%20x%2C ,=3,c,%20d=4".toList = [("a", "1"), ("b", " x,"), (" d", "4")] := by
  decide +kernel
example : read "=3,c".toList = [] := by decide +kernel

end BaggageHeader

end Telemetry
