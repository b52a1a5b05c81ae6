/-!
# Numbers in bytes

* `Octets.bigEndian`, `Octets.ofNat` — a number in bytes, the highest first.
* `Octets.splitAt?` — the first bytes of a list, if it has so many.
-/

set_option autoImplicit false

namespace WebTestRun.Octets

/-- The number that bytes hold, the highest first. -/
def bigEndian (bytes : List UInt8) : Nat := bytes.foldl (fun n b ↦ n * 256 + b.toNat) 0

/-- A number in so many bytes, the highest first. -/
def ofNat : (size n : Nat) → List UInt8
  | 0, _ => []
  | size + 1, n => ofNat size (n / 256) ++ [UInt8.ofNat (n % 256)]

/-- The first `n` bytes and the rest, if there are so many. -/
def splitAt? : (n : Nat) → List UInt8 → Option (List UInt8 × List UInt8)
  | 0, rest => some ([], rest)
  | _ + 1, [] => none
  | n + 1, b :: rest => (splitAt? n rest).map fun s ↦ (b :: s.1, s.2)

@[simp] theorem length_ofNat (size n : Nat) : (ofNat size n).length = size := by
  induction size generalizing n with
  | zero => rfl
  | succ size ih => simp [ofNat, ih]

theorem pow_succ_eq (n k : Nat) : Nat.pow n (k + 1) = n * Nat.pow n k := by
  rw [Nat.mul_comm]
  rfl

theorem bigEndian_append (s t : List UInt8) :
    bigEndian (s ++ t) = bigEndian s * Nat.pow 256 t.length + bigEndian t := by
  suffices h : ∀ (t : List UInt8) (n : Nat), t.foldl (fun n b ↦ n * 256 + b.toNat) n =
      n * Nat.pow 256 t.length + bigEndian t by
    simpa [bigEndian, List.foldl_append] using h t (bigEndian s)
  intro t
  induction t with
  | nil => intro n; exact (Nat.mul_one n).symm
  | cons b t ih =>
    intro n
    have hb := ih b.toNat
    simp only [List.foldl_cons, List.length_cons, bigEndian, Nat.zero_mul, Nat.zero_add] at *
    rw [ih, hb, pow_succ_eq, Nat.add_mul, Nat.mul_assoc, Nat.add_assoc]

/-- A number that fits is read back. -/
theorem bigEndian_ofNat (size n : Nat) (h : n < Nat.pow 256 size) :
    bigEndian (ofNat size n) = n := by
  induction size generalizing n with
  | zero => exact (Nat.lt_one_iff.1 h).symm
  | succ size ih =>
    have hd : n / 256 < Nat.pow 256 size := by
      rw [pow_succ_eq] at h
      exact Nat.div_lt_of_lt_mul h
    rw [ofNat, bigEndian_append, ih _ hd]
    have : (UInt8.ofNat (n % 256)).toNat = n % 256 := by
      simp only [UInt8.toNat_ofNat']
      omega
    have hp : Nat.pow 256 [UInt8.ofNat (n % 256)].length = 256 := rfl
    simp only [hp, bigEndian, List.foldl_cons, List.foldl_nil, this]
    omega

theorem splitAt?_eq_some_iff {n : Nat} {s a b : List UInt8} :
    splitAt? n s = some (a, b) ↔ s = a ++ b ∧ a.length = n := by
  induction n generalizing s a with
  | zero => cases a <;> simp [splitAt?, eq_comm]
  | succ n ih =>
    cases s with
    | nil => simp only [splitAt?]; cases a <;> simp
    | cons c s =>
      simp only [splitAt?, Option.map_eq_some_iff, Prod.mk.injEq, Prod.exists]
      constructor
      · rintro ⟨a', b', h, rfl, rfl⟩
        obtain ⟨rfl, rfl⟩ := ih.1 h
        simp
      · rintro ⟨h, hl⟩
        cases a with
        | nil => simp at hl
        | cons x a' =>
          simp only [List.cons_append, List.cons.injEq] at h
          obtain ⟨rfl, rfl⟩ := h
          exact ⟨a', b, ih.2 ⟨rfl, by simpa using hl⟩, rfl, rfl⟩

end WebTestRun.Octets
