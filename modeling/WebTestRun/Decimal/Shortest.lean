/-!
# The shortest decimal of a binary number

A binary floating-point number stands for the interval of reals that round to it. Its decimal
is the one with the fewest digits in that interval, and of those the nearest to the number; an
exact tie goes to the even coefficient.

* `Digits` — a coefficient and a power of ten.
* `shortest` — the digits of `m · 2 ^ q`.
-/

set_option autoImplicit false

namespace WebTestRun.Decimal

/-- The number `coefficient · 10 ^ exponent`. -/
structure Digits where
  /-- The significant digits, read as a natural number. -/
  coefficient : Nat
  /-- The power of ten of the last digit. -/
  exponent : Int
  deriving DecidableEq, Repr

/-- The same number without trailing zeros in the coefficient, as far as the first argument
reaches. -/
def Digits.trimmed : (bound : Nat) → Digits → Digits
  | 0, d => d
  | b + 1, d =>
    if d.coefficient % 10 = 0 then Digits.trimmed b ⟨d.coefficient / 10, d.exponent + 1⟩ else d

/-- A positive number over a common denominator, with the ends of the interval that rounds to
it. -/
structure Rounding where
  /-- The number times the denominator. -/
  value : Nat
  /-- The lower end times the denominator. -/
  low : Nat
  /-- The upper end times the denominator. -/
  high : Nat
  /-- The denominator. -/
  den : Nat
  /-- Whether the ends themselves round to the number. -/
  closed : Bool

/-- The interval of `m · 2 ^ q`. Its ends lie half a step away; below the least mantissa of a
binade the step is half as long. A tie rounds to the even mantissa, which is when the ends
belong to the interval. -/
def Rounding.ofBinary (m : Nat) (q : Int) (leastOfBinade : Bool) : Rounding :=
  let scale := Nat.pow 2 (q - 2).toNat
  { value := 4 * m * scale
    low := (4 * m - if leastOfBinade then 1 else 2) * scale
    high := (4 * m + 2) * scale
    den := Nat.pow 2 (2 - q).toNat
    closed := m % 2 == 0 }

/-- The least `t` up to a bound with `num · 10 ^ t ≥ den`. -/
def leadingZeros (num den : Nat) : (bound : Nat) → Nat
  | 0 => 0
  | b + 1 => if den ≤ num then 0 else leadingZeros (num * 10) den b + 1

/-- The `k` with `10 ^ (k - 1) ≤ value < 10 ^ k`. -/
def Rounding.magnitude (r : Rounding) : Int :=
  if r.den ≤ r.value then ((Nat.toDigits 10 (r.value / r.den)).length : Nat)
  else 1 - (leadingZeros r.value r.den 400 : Int)

/-- Whether `c · 10 ^ s` rounds to the number. -/
def Rounding.contains (r : Rounding) (c : Nat) (s : Int) : Bool :=
  let point := c * r.den * Nat.pow 10 s.toNat
  let low := r.low * Nat.pow 10 (-s).toNat
  let high := r.high * Nat.pow 10 (-s).toNat
  if r.closed then low ≤ point && point ≤ high else low < point && point < high

/-- The point of the grid of step `10 ^ s` that rounds to the number and is nearest to it. -/
def Rounding.nearest? (r : Rounding) (s : Int) : Option Digits :=
  let value := r.value * Nat.pow 10 (-s).toNat
  let step := r.den * Nat.pow 10 s.toNat
  let c := value / step
  let rest := value % step
  match r.contains c s, r.contains (c + 1) s with
  | false, false => none
  | true, false => some ⟨c, s⟩
  | false, true => some ⟨c + 1, s⟩
  | true, true =>
    if 2 * rest < step || (2 * rest == step && c % 2 == 0) then some ⟨c, s⟩ else some ⟨c + 1, s⟩

/-- The shortest digits of `m · 2 ^ q`: the first grid that has a point in the interval, starting
with one digit. Seventeen digits always suffice. The point is a power of ten when the next power
above the number rounds to it, and then ends in zeros that are not digits. -/
def shortest (m : Nat) (q : Int) (leastOfBinade : Bool) : Digits :=
  let r := Rounding.ofBinary m q leastOfBinade
  let k := r.magnitude
  let grids := (List.range 17).map fun (n : Nat) ↦ k - 1 - n
  ((grids.findSome? r.nearest?).getD
    ⟨r.value * Nat.pow 10 (17 - k).toNat / r.den, k - 17⟩).trimmed 17

end WebTestRun.Decimal
