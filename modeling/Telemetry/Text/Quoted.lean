import Telemetry.Text.Visible

/-!
# Quoted text

Log messages and descriptions show a text between double quotes.  Inside, the quote and the
backslash are escaped by a backslash, four controls have letters of their own, and every other
character that cannot be seen is written as its code point in hexadecimal between braces.

The same module writes the shapes that descriptions are made of: a list in brackets and a record
with named fields.
-/

namespace Telemetry.Text

/-! ## Characters -/

/-- The code point of a character, in lower case hexadecimal without leading zeros. -/
def codePointText (c : Char) : List Char := Nat.toDigits 16 c.toNat

/-- One character as it stands between quotes. -/
def quoteChar (c : Char) : List Char :=
  if c = '"' then ['\\', '"']
  else if c = '\\' then ['\\', '\\']
  else if c = '\n' then ['\\', 'n']
  else if c = '\r' then ['\\', 'r']
  else if c = '\t' then ['\\', 't']
  else if c = '\x00' then ['\\', '0']
  else if isVisible c then [c]
  else ['\\', 'u', '\x7b'] ++ codePointText c ++ ['\x7d']

/-- A text between double quotes. -/
def quote (s : String) : String := String.ofList ('"' :: s.toList.flatMap quoteChar ++ ['"'])

/-! ## Shapes -/

/-- Texts in brackets, with commas between them. -/
def bracketed (items : List String) : String := "[" ++ String.intercalate ", " items ++ "]"

/-- A record: its name and its fields, each with a name and a text. -/
def describeRecord (name : String) (fields : List (String × String)) : String :=
  name ++ " \x7b " ++ String.intercalate ", " (fields.map fun (f, t) => f ++ ": " ++ t) ++ " \x7d"

/-- A named value around one text. -/
def describeCase (name : String) (content : String) : String := name ++ "(" ++ content ++ ")"

/-! ## Tests -/

example : quote "a\"b\\\n" = "\"a\\\"b\\\\\\n\"" := by decide +kernel
example : quote "é\u00a0" = "\"é\\u\x7ba0\x7d\"" := by decide +kernel
example : describeRecord "View" [("instrument", quote "*")] = "View \x7b instrument: \"*\" \x7d" := by
  decide +kernel
example : bracketed ["1", "2"] = "[1, 2]" := by decide +kernel

end Telemetry.Text
