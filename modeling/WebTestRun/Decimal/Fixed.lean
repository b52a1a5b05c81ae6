import WebTestRun.Decimal.Written

/-!
# Numbers with a fixed number of places

* `fixed` — the text of a number with so many digits after the point.
-/

set_option autoImplicit false

namespace WebTestRun.Decimal

/-- A quotient as the nearest integer; of two that are equally near the even one. -/
def roundedQuotient (n d : Nat) : Nat :=
  let q := n / d
  let r := n % d
  if 2 * r < d then q else if d < 2 * r then q + 1 else q + q % 2

/-- The value of a number in units of the last of so many places. -/
def scaledValue (p : Parts) (places : Nat) : Nat :=
  let m := p.mantissa * Nat.pow 10 places
  if 0 ≤ p.exponent then m * Nat.pow 2 p.exponent.toNat
  else roundedQuotient m (Nat.pow 2 (-p.exponent).toNat)

/-- The digits of a number of units, so many of them after the point. -/
def placed (units places : Nat) : List Char :=
  let fraction := Nat.toDigits 10 (units % Nat.pow 10 places)
  Nat.toDigits 10 (units / Nat.pow 10 places) ++ ['.'] ++
    List.replicate (places - fraction.length) '0' ++ fraction

/-- The text of a finite number with so many places; nothing for the others. -/
def fixed? (places : Nat) (x : Float) : Option (List Char) :=
  (parts? x).map fun p ↦
    (if p.negative then ['-'] else []) ++ placed (scaledValue p places) places

/-- The nearest integer is at most half a unit away. -/
theorem roundedQuotient_near (n d : Nat) (hd : 0 < d) :
    2 * (roundedQuotient n d * d) ≤ 2 * n + d ∧ 2 * n ≤ 2 * (roundedQuotient n d * d) + d := by
  have h : n / d * d + n % d = n := Nat.div_add_mod' n d
  unfold roundedQuotient
  simp only
  split
  · omega
  · split
    · rw [Nat.add_mul]
      have := Nat.mod_lt n hd
      omega
    · rcases Nat.mod_two_eq_zero_or_one (n / d) with h2 | h2 <;> rw [h2]
      · simp; omega
      · rw [Nat.add_mul]; omega

end WebTestRun.Decimal
