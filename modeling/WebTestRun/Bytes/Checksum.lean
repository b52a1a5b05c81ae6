/-!
# Checksums

Two sums that tell whether bytes were damaged on their way.

* `Checksum.crc32` — the remainder of the bytes, taken as a polynomial.
* `Checksum.adler32` — the sum of the bytes, and the sum of these sums.
-/

set_option autoImplicit false

namespace WebTestRun.Checksum

/-- A remainder with one bit more. -/
def crcBit (r : UInt32) : UInt32 :=
  if r &&& 1 = 1 then (r >>> 1) ^^^ 0xEDB88320 else r >>> 1

/-- A remainder with one byte more. -/
def crcByte (r : UInt32) (b : UInt8) : UInt32 := Nat.repeat crcBit 8 (r ^^^ b.toUInt32)

/-- The remainder of the bytes. -/
def crc32 (bytes : List UInt8) : UInt32 := bytes.foldl crcByte 0xFFFFFFFF ^^^ 0xFFFFFFFF

/-- The modulus of the sums, the largest prime below `2 ^ 16`. -/
def adlerModulus : Nat := 65521

/-- Both sums with one byte more. -/
def adlerByte (s : Nat × Nat) (b : UInt8) : Nat × Nat :=
  let first := (s.1 + b.toNat) % adlerModulus
  (first, (s.2 + first) % adlerModulus)

/-- The two sums in one number. -/
def adler32 (bytes : List UInt8) : Nat :=
  let s := bytes.foldl adlerByte (1, 0)
  s.2 * 65536 + s.1

end WebTestRun.Checksum
