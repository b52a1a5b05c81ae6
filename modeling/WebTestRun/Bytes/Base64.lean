/-!
# Base64

Bytes as letters: three bytes are four letters of an alphabet of 64. A group that lacks bytes is
filled up with `=`, and only the last group may be. What the missing bytes would have held must be
zero, so every text stands for other bytes.

* `Base64.encode` — the letters of bytes.
* `Base64.decode?` — the bytes of letters.
-/

set_option autoImplicit false

namespace WebTestRun.Base64

/-- The letter of a number below 64. -/
def letter (n : Nat) : Char :=
  if n < 26 then Char.ofNat ('A'.toNat + n)
  else if n < 52 then Char.ofNat ('a'.toNat + (n - 26))
  else if n < 62 then Char.ofNat ('0'.toNat + (n - 52))
  else if n = 62 then '+'
  else '/'

/-- The number of a letter. -/
def number? (c : Char) : Option Nat :=
  if c.isUpper then some (c.toNat - 'A'.toNat)
  else if c.isLower then some (c.toNat - 'a'.toNat + 26)
  else if c.isDigit then some (c.toNat - '0'.toNat + 52)
  else if c = '+' then some 62
  else if c = '/' then some 63
  else none

/-- The letters of bytes. -/
def letters : List UInt8 → List Char
  | a :: b :: c :: rest =>
    let n := a.toNat * 65536 + b.toNat * 256 + c.toNat
    letter (n / 262144) :: letter (n / 4096 % 64) :: letter (n / 64 % 64) :: letter (n % 64) ::
      letters rest
  | [a, b] =>
    let n := a.toNat * 1024 + b.toNat * 4
    [letter (n / 4096), letter (n / 64 % 64), letter (n % 64), '=']
  | [a] => [letter (a.toNat / 4), letter (a.toNat % 4 * 16), '=', '=']
  | [] => []

/-- The letters of bytes, as a text. -/
def encode (bytes : ByteArray) : String := String.ofList (letters bytes.data.toList)

/-- The bytes of the last group, if it is filled up. -/
def lastBytes? (a b c : Char) : Option (List UInt8) := do
  let a ← number? a
  let b ← number? b
  if c = '=' then
    if b % 16 = 0 then some [UInt8.ofNat (a * 4 + b / 16)] else none
  else
    let c ← number? c
    if c % 4 = 0 then some [UInt8.ofNat (a * 4 + b / 16), UInt8.ofNat (b % 16 * 16 + c / 4)]
    else none

/-- The bytes of a full group. -/
def groupBytes? (a b c d : Char) : Option (List UInt8) := do
  let n := (← number? a) * 262144 + (← number? b) * 4096 + (← number? c) * 64 + (← number? d)
  return [UInt8.ofNat (n / 65536), UInt8.ofNat (n / 256 % 256), UInt8.ofNat (n % 256)]

/-- The bytes of letters. -/
def bytes? : List Char → Option (List UInt8)
  | [] => some []
  | [a, b, c, d] => if d = '=' then lastBytes? a b c else groupBytes? a b c d
  | a :: b :: c :: d :: rest => do
    let here ← groupBytes? a b c d
    return here ++ (← bytes? rest)
  | _ => none

/-- The bytes of letters. -/
def decode? (s : String) : Option ByteArray := (bytes? s.toList).map fun b ↦ ⟨b.toArray⟩

end WebTestRun.Base64
