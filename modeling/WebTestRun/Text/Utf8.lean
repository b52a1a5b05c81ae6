/-!
# Bytes as text

Text comes as UTF-8: the first byte of a character says how many bytes follow and in which range
the second one is. Bytes that are no text are reported with the place where they stop being one.

* `Utf8.firstFault?` — where bytes stop being a text.
* `Utf8.text` — the text of bytes.
* `Utf8.mended` — the same with a replacement for bytes that are no text.
-/

set_option autoImplicit false

namespace WebTestRun.Utf8

/-- Bytes that are no text. -/
structure Fault where
  /-- How many bytes before it are a text. -/
  place : Nat
  /-- How many bytes cannot be the start of a character; nothing if the bytes end in the middle of
  one. -/
  length : Option Nat
  deriving DecidableEq, Repr

/-- What is said about it. -/
def Fault.message (f : Fault) : String :=
  match f.length with
  | some n => s!"invalid utf-8 sequence of {n} bytes from index {f.place}"
  | none => s!"incomplete utf-8 byte sequence from index {f.place}"

/-- A character that starts with a byte: the range of its second byte and how many bytes follow
that one; nothing if no character starts with the byte. A byte below 128 is a character itself. -/
def second? (first : Nat) : Option (Nat × Nat × Nat) :=
  if 0xC2 ≤ first && first ≤ 0xDF then some (0x80, 0xBF, 0)
  else if first = 0xE0 then some (0xA0, 0xBF, 1)
  else if first = 0xED then some (0x80, 0x9F, 1)
  else if 0xE1 ≤ first && first ≤ 0xEF then some (0x80, 0xBF, 1)
  else if first = 0xF0 then some (0x90, 0xBF, 2)
  else if 0xF1 ≤ first && first ≤ 0xF3 then some (0x80, 0xBF, 2)
  else if first = 0xF4 then some (0x80, 0x8F, 2)
  else none

/-- Where the reader is in a character: how many bytes of it were read, the range of the next one,
and how many follow that one. -/
structure Inside where
  /-- How many bytes were read. -/
  read : Nat
  /-- The smallest next byte. -/
  least : Nat
  /-- The largest next byte. -/
  most : Nat
  /-- How many bytes follow the next one. -/
  after : Nat

/-- Where the reader is after a byte inside a character; nothing inside the next one. An error
tells how many bytes cannot start a character. -/
def Inside.read? (s : Inside) (b : Nat) : Except Nat (Option Inside) :=
  if b < s.least || s.most < b then .error s.read
  else match s.after with
    | 0 => .ok none
    | n + 1 => .ok (some ⟨s.read + 1, 0x80, 0xBF, n⟩)

/-- Where the reader is after a byte between two characters. -/
def start? (b : Nat) : Except Nat (Option Inside) :=
  if b < 0x80 then .ok none
  else match second? b with
    | some (least, most, after) => .ok (some ⟨1, least, most, after⟩)
    | none => .error 1

/-- Where bytes stop being a text, given how many bytes of whole characters were read before and
where the reader is. -/
def faultFrom? (place : Nat) (s : Option Inside) : List UInt8 → Option Fault
  | [] => s.map fun _ ↦ ⟨place, none⟩
  | b :: rest =>
    let next := match s with
      | some inside => inside.read? b.toNat
      | none => start? b.toNat
    match next with
    | .error n => some ⟨place, some n⟩
    | .ok none => faultFrom? (place + (s.elim 1 fun inside ↦ inside.read + 1)) none rest
    | .ok (some inside) => faultFrom? place (some inside) rest

/-- Where bytes stop being a text. -/
def firstFault? (bytes : List UInt8) : Option Fault := faultFrom? 0 none bytes

/-- The text of bytes. -/
def text (bytes : List UInt8) : Except Fault String :=
  match firstFault? bytes with
  | some fault => .error fault
  | none => .ok ((String.fromUTF8? ⟨bytes.toArray⟩).getD "")

/-- The text of bytes that are one. -/
def whole (bytes : List UInt8) : String := (String.fromUTF8? ⟨bytes.toArray⟩).getD ""

/-- The text of bytes, in which the replacement character stands for bytes that cannot start a
character. -/
def mended (bytes : List UInt8) : String := go bytes.length bytes
where
  /-- The text of bytes that can be no text in at most so many places. -/
  go : Nat → List UInt8 → String
    | 0, _ => ""
    | n + 1, bytes =>
      match firstFault? bytes with
      | none => whole bytes
      | some ⟨place, length⟩ =>
        whole (bytes.take place) ++ "\uFFFD" ++
          length.elim "" fun l ↦ go n (bytes.drop (place + l))

/-- Bytes without a byte order mark in front. -/
def withoutMark : List UInt8 → List UInt8
  | 0xEF :: 0xBB :: 0xBF :: rest => rest
  | bytes => bytes

end WebTestRun.Utf8
