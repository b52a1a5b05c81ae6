/-!
# Numbers of a fixed width

* `Width.limit32`, `Width.limit64` — where natural numbers of so many bits end.
* `Width.signedLimit64` — where integers of 64 bits end.
-/

set_option autoImplicit false

namespace WebTestRun.Width

/-- One more than the largest natural number of 31 bits. -/
abbrev limit31 : Nat := 2147483648

/-- One more than the largest natural number of 32 bits. -/
abbrev limit32 : Nat := 4294967296

/-- One more than the largest natural number of 64 bits. -/
abbrev limit64 : Nat := 18446744073709551616

/-- One more than the largest integer of 64 bits; the smallest one is its negation. -/
abbrev signedLimit64 : Nat := 9223372036854775808

/-- An integer has 64 bits. -/
abbrev IsSigned64 (n : Int) : Prop := -(signedLimit64 : Int) ≤ n ∧ n < signedLimit64

end WebTestRun.Width
