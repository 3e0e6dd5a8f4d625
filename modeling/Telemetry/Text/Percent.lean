import Telemetry.Text.Hex
import Telemetry.Text.Utf8

/-!
# Percent encoding

A header value may hold any text because the characters that would be read as part of the header
are written as `%` and two upper case hexadecimal digits per UTF-8 byte.  Which ASCII characters
are written so is the choice of the header; a character outside ASCII always is.

Reading takes escapes of either case, leaves a `%` alone that no two hexadecimal digits follow, and
reads the bytes as UTF-8 with replacements.
-/

namespace Telemetry.Text

/-! ## Writing -/

/-- The escape of one byte. -/
def escapeByte (b : UInt8) : List Char :=
  ['%', (hexDigit (b.toNat / 16)).toUpper, (hexDigit (b.toNat % 16)).toUpper]

/-- A character is written as it is when it is ASCII and the header does not escape it. -/
def isPlain (escaped : Char → Bool) (c : Char) : Bool := c.toNat < 128 && !escaped c

/-- One character, written as itself or as the escapes of its bytes. -/
def encodePercentChar (escaped : Char → Bool) (c : Char) : List Char :=
  if isPlain escaped c then [c] else (String.utf8EncodeChar c).flatMap escapeByte

/-- A text with the escaped characters of a header written as bytes. -/
def encodePercent (escaped : Char → Bool) (cs : List Char) : List Char :=
  cs.flatMap (encodePercentChar escaped)

/-! ## Reading -/

/-- The byte that two characters behind a `%` spell, if they are hexadecimal digits. -/
def escapedByte? (high low : Char) : Option UInt8 :=
  match hexValue? high, hexValue? low with
  | some h, some l => some (UInt8.ofNat (h * 16 + l))
  | _, _ => none

/-- The bytes of a text, with escapes read. -/
def percentBytes : List Char → List UInt8
  | [] => []
  | '%' :: high :: low :: cs =>
    match escapedByte? high low with
    | some b => b :: percentBytes cs
    | none => 0x25 :: percentBytes (high :: low :: cs)
  | c :: cs => String.utf8EncodeChar c ++ percentBytes cs
termination_by structural cs => cs

/-- A text with its escapes read, and a replacement wherever they spell no UTF-8. -/
def decodePercent (cs : List Char) : List Char := decodeLossy (percentBytes cs)

/-! ## Character classes -/

/-- The control characters of ASCII, `DEL` among them. -/
def isAsciiControl (c : Char) : Bool := c.toNat < 0x20 || c.toNat == 0x7F

/-- Letters and digits of ASCII. -/
def isAsciiAlphanumeric (c : Char) : Bool :=
  ('0' ≤ c && c ≤ '9') || ('a' ≤ c && c ≤ 'z') || ('A' ≤ c && c ≤ 'Z')

/-! ## Tests -/

example : String.ofList (encodePercent (fun c => c == ' ' || c == '%') "a b%é".toList) = "a%20b%25%C3%A9" := by
  decide
example : String.ofList (decodePercent "a%20b%25%c3%A9".toList) = "a b%é" := by decide
example : String.ofList (decodePercent "%4%4x%%41%".toList) = "%4%4x%A%" := by decide
example : String.ofList (decodePercent "%C3%".toList) = "\ufffd%" := by decide

end Telemetry.Text
