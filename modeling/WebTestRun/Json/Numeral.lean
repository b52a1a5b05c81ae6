import WebTestRun.Decimal.Width
import WebTestRun.Json.Basic

/-!
# Numerals of JSON texts

A numeral is an optional minus sign, digits without a superfluous leading zero, an optional
fraction and an optional power of ten. Its value is an integer when it has neither fraction nor
power and fits 64 bits. Any other value is a floating-point number: the leading digits that fit
64 bits unsigned, rounded, then multiplied or divided by a power of ten with one more rounding. It
can differ from the nearest number in the last place, and it can be too large.

* `Numeral` — the parts of a numeral; `Numeral.ofText?` — the grammar.
* `Numeral.value?` — its value, if it is not too large.
-/

set_option autoImplicit false

namespace WebTestRun

/-- The parts of a numeral. -/
structure Numeral where
  /-- Whether a minus sign stands in front. -/
  negative : Bool
  /-- The digits before the point. -/
  whole : List Char
  /-- The digits after the point, if there is one. -/
  fraction : Option (List Char)
  /-- Sign and digits of the power of ten, if there is one. -/
  power : Option (Bool × List Char)

namespace Numeral

/-- The power of ten at the end of a numeral: whether it is negative, and its digits. -/
def powerOf? : List Char → Option (Option (Bool × List Char))
  | [] => some none
  | c :: rest =>
    let (negative, digits) := match rest with
      | '-' :: ds => (true, ds)
      | '+' :: ds => (false, ds)
      | ds => (false, ds)
    if (c = 'e' || c = 'E') && !digits.isEmpty && digits.all Char.isDigit then
      some (some (negative, digits))
    else none

/-- The numeral that a text spells. -/
def ofText? (s : List Char) : Option Numeral :=
  let (negative, s) := match s with
    | '-' :: rest => (true, rest)
    | rest => (false, rest)
  let whole := s.takeWhile Char.isDigit
  let s := s.dropWhile Char.isDigit
  if whole.isEmpty || (1 < whole.length && whole.head? = some '0') then none
  else match s with
    | '.' :: rest =>
      let fraction := rest.takeWhile Char.isDigit
      if fraction.isEmpty then none
      else (powerOf? (rest.dropWhile Char.isDigit)).map fun p ↦ ⟨negative, whole, some fraction, p⟩
    | rest => (powerOf? rest).map fun p ↦ ⟨negative, whole, none, p⟩

/-- The value of a digit. -/
def digit (c : Char) : Nat := c.toNat - '0'.toNat

/-- The value of digits. -/
def natural (digits : List Char) : Nat := digits.foldl (fun n c ↦ n * 10 + digit c) 0

/-- Digits taken over while the value fits 64 bits, and those that are left. -/
def significand (start : Nat) : List Char → Nat × List Char
  | [] => (start, [])
  | c :: rest =>
    let next := start * 10 + digit c
    if next < Width.limit64 then significand next rest else (start, c :: rest)

/-- The floating-point number nearest to a power of ten. -/
def powerOfTen (n : Nat) : Float := Float.ofScientific 1 false n

/-- A floating-point number times a power of ten, in steps of `10 ^ 308` as far as the first
argument reaches; nothing when it becomes infinite. -/
def scaled? : (bound : Nat) → Float → Int → Option Float
  | 0, x, _ => some x
  | bound + 1, x, power =>
    if power.natAbs ≤ 308 then
      if 0 ≤ power then
        let y := x * powerOfTen power.natAbs
        if y.isInf then none else some y
      else some (x / powerOfTen power.natAbs)
    else if x == 0.0 then some x
    else if 0 ≤ power then none
    else scaled? bound (x / powerOfTen 308) (power + 308)

/-- The number with a sign. -/
def signed (negative : Bool) (x : Float) : Float := if negative then -x else x

/-- The value of a numeral, if it is not too large. A negative power beyond the range of 32 bits
gives zero; so does a positive one when all digits before it are zero. -/
def value? (n : Numeral) : Option Number :=
  let (whole, beyond) := significand 0 n.whole
  match n.fraction, n.power with
  | none, none =>
    if beyond.isEmpty then
      if !n.negative then some (.integer whole)
      else if 0 < whole && whole ≤ Width.signedLimit64 then some (.integer (-whole))
      else some (.real (-(Float.ofNat whole)))
    else (scaled? 8 (Float.ofNat whole) beyond.length).map fun x ↦ .real (signed n.negative x)
  | fraction, power =>
    let fraction := fraction.getD []
    let (digits, dropped) := significand whole fraction
    let exponent : Int := beyond.length - (fraction.length - dropped.length : Nat)
    let (negativePower, powerDigits) := power.getD (false, [])
    let p := natural powerDigits
    if Width.limit31 ≤ p then
      if digits ≠ 0 && !negativePower then none else some (.real (signed n.negative 0.0))
    else
      (scaled? 8 (Float.ofNat digits) (exponent + if negativePower then -(p : Int) else p)).map
        fun x ↦ .real (signed n.negative x)

end Numeral

end WebTestRun
