import WebTestRun.Bytes.Checksum
import WebTestRun.Bytes.Octets

/-!
# Compressed bytes

Compressed bytes are a stream of bits, in each byte the lowest first: blocks of literal bytes and
of repetitions of earlier ones, written with prefix codes of which only the lengths are known. An
envelope says how they are compressed and ends with a checksum.

* `Deflate.inflate?` — the bytes of a stream in its envelope.
* `Deflate.store` — a stream that holds bytes as they are.
* `Deflate.Code` — a prefix code.
-/

set_option autoImplicit false

namespace WebTestRun.Deflate

/-- The bits of bytes, of each byte the lowest first. -/
def bits (bytes : List UInt8) : List Bool :=
  bytes.flatMap fun b ↦ (List.range 8).map fun i ↦ b.toNat.testBit i

/-- What reads bits from the front of a stream. -/
abbrev Reader := StateT (List Bool) Option

namespace Reader

/-- The next bit. -/
def bit : Reader Bool := fun s ↦
  match s with
  | [] => none
  | b :: rest => some (b, rest)

/-- The number in the next `n` bits, the lowest first. -/
def number : (n : Nat) → Reader Nat
  | 0 => pure 0
  | n + 1 => do
    let b ← bit
    let rest ← number n
    return b.toNat + 2 * rest

/-- The rest of a byte that was begun is passed over. -/
def align : Reader Unit := modify fun s ↦ s.drop (s.length % 8)

end Reader

/-! ## Prefix codes -/

/-- A code whose words of one length are consecutive numbers, each length going on where the next
shorter one ended. -/
structure Code where
  /-- How many words there are of each length, from one bit on. -/
  counts : List Nat
  /-- The symbols in the order of their words. -/
  symbols : Array Nat

namespace Code

/-- The largest length of a word. -/
def maxLength : Nat := 15

/-- The code in which each symbol has a word of the length that stands in its place, or none if
that is zero. -/
def ofLengths (lengths : List Nat) : Code where
  counts := (List.range maxLength).map fun i ↦ lengths.count (i + 1)
  symbols := ((List.range maxLength).flatMap fun i ↦
    (lengths.zipIdx.filter fun s ↦ s.1 == i + 1).map (·.2)).toArray

/-- How much of all words of the largest length is taken. -/
def used (c : Code) : Nat :=
  c.counts.zipIdx.foldl (fun taken n ↦ taken + n.1 * Nat.pow 2 (maxLength - 1 - n.2)) 0

/-- Every long enough text of bits starts with exactly one word. -/
def isComplete (c : Code) : Bool := c.used == Nat.pow 2 maxLength

/-- The code has no word, or a single one of one bit. -/
def isTrivial (c : Code) : Bool := c.used == 0 || c.counts == 1 :: List.replicate (maxLength - 1) 0

/-- The symbol of the next word, given the numbers of words of the lengths to come, the bits read
so far, the first word of their length and the place of its symbol. -/
def symbolFrom (c : Code) : List Nat → (word first place : Nat) → Reader Nat
  | [], _, _, _ => failure
  | count :: rest, word, first, place => do
    let word := word + (← Reader.bit).toNat
    if word < first + count then
      match c.symbols[place + (word - first)]? with
      | some s => return s
      | none => failure
    else symbolFrom c rest (2 * word) (2 * (first + count)) (place + count)

/-- The symbol of the next word. -/
def symbol (c : Code) : Reader Nat := c.symbolFrom c.counts 0 0 0

end Code

/-! ## Blocks -/

/-- The shortest length of repetition of a symbol from 257 on, and how many bits add to it. -/
def lengthRows : Array (Nat × Nat) :=
  #[(3, 0), (4, 0), (5, 0), (6, 0), (7, 0), (8, 0), (9, 0), (10, 0), (11, 1), (13, 1), (15, 1),
    (17, 1), (19, 2), (23, 2), (27, 2), (31, 2), (35, 3), (43, 3), (51, 3), (59, 3), (67, 4),
    (83, 4), (99, 4), (115, 4), (131, 5), (163, 5), (195, 5), (227, 5), (258, 0)]

/-- The shortest distance of a symbol, and how many bits add to it. -/
def distanceRows : Array (Nat × Nat) :=
  #[(1, 0), (2, 0), (3, 0), (4, 0), (5, 1), (7, 1), (9, 2), (13, 2), (17, 3), (25, 3), (33, 4),
    (49, 4), (65, 5), (97, 5), (129, 6), (193, 6), (257, 7), (385, 7), (513, 8), (769, 8),
    (1025, 9), (1537, 9), (2049, 10), (3073, 10), (4097, 11), (6145, 11), (8193, 12),
    (12289, 12), (16385, 13), (24577, 13)]

/-- The number that a row and the bits after its symbol give. -/
def rowNumber (rows : Array (Nat × Nat)) (symbol : Nat) : Reader Nat :=
  match rows[symbol]? with
  | some (least, extra) => (least + ·) <$> Reader.number extra
  | none => failure

/-- Bytes with `n` more, each repeating the one so many places before it. -/
def repeated (distance : Nat) : (n : Nat) → Array UInt8 → Array UInt8
  | 0, out => out
  | n + 1, out => repeated distance n (out.push (out.getD (out.size - distance) 0))

/-- The bytes with those of a block more, up to the symbol that ends it. The number bounds how many
symbols are read. -/
def blockSymbols (literals distances : Code) : Nat → Array UInt8 → Reader (Array UInt8)
  | 0, _ => failure
  | n + 1, out => do
    let s ← literals.symbol
    if s < 256 then blockSymbols literals distances n (out.push (UInt8.ofNat s))
    else if s = 256 then return out
    else
      let length ← rowNumber lengthRows (s - 257)
      let distance ← rowNumber distanceRows (← distances.symbol)
      if out.size < distance then failure
      else blockSymbols literals distances n (repeated distance length out)

/-- The lengths of literals in blocks without codes of their own. -/
def fixedLiterals : List Nat :=
  List.replicate 144 8 ++ List.replicate 112 9 ++ List.replicate 24 7 ++ List.replicate 8 8

/-- The lengths of distances in blocks without codes of their own. -/
def fixedDistances : List Nat := List.replicate 32 5

/-- The order in which the lengths of the code for lengths are given. -/
def lengthOrder : List Nat := [16, 17, 18, 0, 8, 7, 9, 6, 10, 5, 11, 4, 12, 3, 13, 2, 14, 1, 15]

/-- The lengths of the code for lengths, of which the first few in order are given. -/
def lengthLengths (given : List Nat) : List Nat :=
  (List.range 19).map fun s ↦ ((lengthOrder.zip given).lookup s).getD 0

/-- The lengths up to a number of them, each given itself or as a repetition of the last or of
zeros. The first number bounds how many symbols are read. -/
def codeLengths (c : Code) (total : Nat) : Nat → List Nat → Reader (List Nat)
  | 0, _ => failure
  | n + 1, sofar => do
    if sofar.length = total then return sofar
    else if total < sofar.length then failure
    else
      let s ← c.symbol
      if s < 16 then codeLengths c total n (sofar ++ [s])
      else if s = 16 then
        match sofar.getLast? with
        | none => failure
        | some last =>
          let times := 3 + (← Reader.number 2)
          codeLengths c total n (sofar ++ List.replicate times last)
      else
        let times ← if s = 17 then (3 + ·) <$> Reader.number 3 else (11 + ·) <$> Reader.number 7
        codeLengths c total n (sofar ++ List.replicate times 0)

/-- The codes that a block brings along, for literals and for distances. -/
def ownCodes : Reader (Code × Code) := do
  let literals := 257 + (← Reader.number 5)
  let distances := 1 + (← Reader.number 5)
  let given := 4 + (← Reader.number 4)
  if 286 < literals || 30 < distances then failure
  let lengths ← (List.range given).mapM fun _ ↦ Reader.number 3
  let code := Code.ofLengths (lengthLengths lengths)
  if !code.isComplete then failure
  let total := literals + distances
  let all ← codeLengths code total (total + 1) []
  let literal := Code.ofLengths (all.take literals)
  let distance := Code.ofLengths (all.drop literals)
  if !literal.isComplete || all.getD 256 0 = 0 then failure
  if !distance.isComplete && !distance.isTrivial then failure
  return (literal, distance)

/-- The bytes with those of a block more that holds them as they are. -/
def storedBlock (out : Array UInt8) : Reader (Array UInt8) := do
  Reader.align
  let size ← Reader.number 16
  let check ← Reader.number 16
  if size + check ≠ 65535 then failure
  let bytes ← (List.range size).mapM fun _ ↦ Reader.number 8
  return out ++ (bytes.map UInt8.ofNat).toArray

/-- The bytes with those of one block more. -/
def block (out : Array UInt8) : Reader (Array UInt8) := do
  let bound := (← get).length
  match ← Reader.number 2 with
  | 0 => storedBlock out
  | 1 => blockSymbols (.ofLengths fixedLiterals) (.ofLengths fixedDistances) bound out
  | 2 => do
    let (literals, distances) ← ownCodes
    blockSymbols literals distances bound out
  | _ => failure

/-- The bytes with those of all blocks more, up to the one that says it is the last. The number
bounds how many blocks are read. -/
def blocks : Nat → Array UInt8 → Reader (Array UInt8)
  | 0, _ => failure
  | n + 1, out => do
    let last ← Reader.bit
    let out ← block out
    if last then return out else blocks n out

/-! ## The envelope -/

/-- The first two bytes of an envelope say that the stream is compressed in this way, with a window
of up to 32768 bytes and no dictionary. -/
def isHeader (method flags : UInt8) : Bool :=
  method.toNat % 16 == 8 && method.toNat / 16 ≤ 7 && flags.toNat / 32 % 2 == 0 &&
    (method.toNat * 256 + flags.toNat) % 31 == 0

/-- The bytes of a stream in its envelope. The checksum must be there and is not compared. -/
def inflate? : List UInt8 → Option (Array UInt8)
  | method :: flags :: stream =>
    if isHeader method flags then
      let read : Reader (Array UInt8) := do
        let out ← blocks (8 * stream.length) #[]
        Reader.align
        let _ ← Reader.number 32
        return out
      (read.run (bits stream)).map (·.1)
    else none
  | _ => none

/-! ## Bytes as they are -/

/-- A block that holds at most 65535 bytes as they are. -/
def storedBytes (last : Bool) (bytes : List UInt8) : List UInt8 :=
  let low (n : Nat) : UInt8 := UInt8.ofNat (n % 256)
  let high (n : Nat) : UInt8 := UInt8.ofNat (n / 256)
  let size := bytes.length
  let check := 65535 - size
  (if last then 1 else 0) :: low size :: high size :: low check :: high check :: bytes

/-- Blocks that hold bytes as they are. -/
def storedBlocks (bytes : List UInt8) : List UInt8 :=
  if bytes.length ≤ 65535 then storedBytes true bytes
  else storedBytes false (bytes.take 65535) ++ storedBlocks (bytes.drop 65535)
termination_by bytes.length
decreasing_by simp; omega

/-- A stream in its envelope that holds bytes as they are. -/
def store (bytes : List UInt8) : List UInt8 :=
  0x78 :: 0x01 :: storedBlocks bytes ++ Octets.ofNat 4 (Checksum.adler32 bytes)

end WebTestRun.Deflate
