import WebTestRun.Text.Cut

/-!
# Texts as components of a query

A component of a query is written in ASCII: letters, digits and the four marks `_ . - ~` stand
for themselves, and every other byte of the UTF-8 form is a percent sign with two hexadecimal
digits in upper case. A space, which is `%20` then, is written as a plus sign.

* `percentEncode` — a text with its bytes escaped.
* `formEncode` — the component of a text.
-/

set_option autoImplicit false

namespace WebTestRun.Text

/-- A byte that stands for itself. -/
def isPlainByte (b : UInt8) : Bool :=
  let c := Char.ofNat b.toNat
  decide (b < 128) && (c.isAlphanum || c = '_' || c = '.' || c = '-' || c = '~')

/-- A number below sixteen as a digit in upper case. -/
def upperHexDigit (n : Nat) : Char := (Nat.digitChar n).toUpper

/-- How one byte is escaped. -/
def percentEncodeByte (b : UInt8) : List Char :=
  if isPlainByte b then [Char.ofNat b.toNat]
  else ['%', upperHexDigit (b.toNat / 16), upperHexDigit (b.toNat % 16)]

/-- A text with its bytes escaped. -/
def percentEncode (s : String) : List Char :=
  s.toList.flatMap fun c ↦ (String.utf8EncodeChar c).flatMap percentEncodeByte

/-- A text as a component of a query. -/
def formEncode (s : String) : String :=
  String.ofList (replaceAll ['%', '2', '0'] ['+'] (percentEncode s))

end WebTestRun.Text
