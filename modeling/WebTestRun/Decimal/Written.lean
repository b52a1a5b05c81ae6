import WebTestRun.Decimal.Shortest
import WebTestRun.Decimal.Width

/-!
# Floating-point numbers as text

A finite number is written with its shortest digits. From `10 ^ -5` up to below `10 ^ 16` the
notation is positional and always has a fraction (`1.0`, `0.00001`); outside that range it is one
digit, a fraction if there is one, and a signed power of ten (`1e-6`, `1.25e+20`).

* `parts?` — sign, mantissa and binary exponent of a number.
* `written?` — the text.
* `plain` — the shortest digits in positional notation whatever the size, without a needless
  fraction.
-/

set_option autoImplicit false

namespace WebTestRun.Decimal

/-- A finite floating-point number `± m · 2 ^ q`. -/
structure Parts where
  /-- Whether the sign bit is set. -/
  negative : Bool
  /-- The mantissa `m`. -/
  mantissa : Nat
  /-- The exponent `q`. -/
  exponent : Int
  /-- Whether `m` is the least mantissa of a binade that has a binade of finer step below it. -/
  leastOfBinade : Bool

/-- One more than the largest fraction of a number. -/
def fractionLimit : Nat := 4503599627370496

/-- The parts of a number, unless it is infinite or not a number. -/
def parts? (x : Float) : Option Parts :=
  let bits : Nat := x.toBits.toNat
  let fraction : Nat := bits % fractionLimit
  let biased : Nat := bits / fractionLimit % 2048
  let negative := decide (Width.signedLimit64 ≤ bits)
  if biased = 2047 then none
  else if biased = 0 then some ⟨negative, fraction, -1074, false⟩
  else some ⟨negative, fraction + fractionLimit, (biased : Int) - 1075, fraction == 0 && 1 < biased⟩

/-- Positional notation, with a fraction of at least one digit. -/
def positional (digits : List Char) (exponent : Int) : List Char :=
  let point := digits.length + exponent
  if 0 ≤ exponent then digits ++ List.replicate exponent.toNat '0' ++ ['.', '0']
  else if 0 < point then digits.take point.toNat ++ ['.'] ++ digits.drop point.toNat
  else ['0', '.'] ++ List.replicate (-point).toNat '0' ++ digits

/-- One digit, the others as a fraction, and the power of ten with its sign. -/
def scientific (digits : List Char) (power : Int) : List Char :=
  let fraction := if digits.length ≤ 1 then [] else '.' :: digits.drop 1
  let sign := if power < 0 then '-' else '+'
  digits.take 1 ++ fraction ++ ['e', sign] ++ Nat.toDigits 10 power.natAbs

/-- The text of a finite number; nothing for the others. -/
def written? (x : Float) : Option (List Char) :=
  (parts? x).map fun p ↦
    let body :=
      if p.mantissa = 0 then ['0', '.', '0']
      else
        let d := shortest p.mantissa p.exponent p.leastOfBinade
        let digits := Nat.toDigits 10 d.coefficient
        let power := digits.length + d.exponent - 1
        if -5 ≤ power && power < 16 then positional digits d.exponent
        else scientific digits power
    if p.negative then '-' :: body else body

/-- The shortest digits in positional notation, with a fraction only if there is one. -/
def plainPositional (digits : List Char) (exponent : Int) : List Char :=
  if 0 ≤ exponent then digits ++ List.replicate exponent.toNat '0'
  else positional digits exponent

/-- The text of any number in positional notation. -/
def plain (x : Float) : List Char :=
  match parts? x with
  | none =>
    if x.isNaN then ['N', 'a', 'N']
    else if x < 0.0 then ['-', 'i', 'n', 'f'] else ['i', 'n', 'f']
  | some p =>
    let body :=
      if p.mantissa = 0 then ['0']
      else
        let d := shortest p.mantissa p.exponent p.leastOfBinade
        plainPositional (Nat.toDigits 10 d.coefficient) d.exponent
    if p.negative then '-' :: body else body

end WebTestRun.Decimal
