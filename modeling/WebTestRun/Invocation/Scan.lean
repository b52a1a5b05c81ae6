import WebTestRun.Invocation.Key

/-!
# Scanning the words of a command line

The words of a command line are scanned from left to right. A word that starts with two dashes
names an option, whose value follows an equality sign or is the next word; one that starts with a
single dash is made of letters; two dashes alone make every later word a plain one. A value is
only looked at when the next word has shown that no other belongs to it.

* `Invocation.Scan` — where the scanner is.
* `Scan.step` — a word.
* `Scan.settle` — no word belongs to the option before it any more.
-/

set_option autoImplicit false

namespace WebTestRun.Invocation

/-- Where the scanner is. -/
structure Scan where
  /-- The options that were given. -/
  given : Given := {}
  /-- The option that was named last, and its value once it was found. -/
  pending : Option (Key × Option String) := none
  /-- How many plain words were found. -/
  words : Nat := 0
  /-- Every word is a plain one. -/
  plain : Bool := false

namespace Scan

/-- Whether the next word is the value of an option. -/
def awaits (s : Scan) : Bool := s.pending.any fun p ↦ p.2.isNone

/-- No word belongs to the option before it any more. -/
def settle (s : Scan) : Except Usage Scan :=
  match s.pending with
  | none => .ok s
  | some (_, none) => .error .invalidValue
  | some (key, some value) => do return { s with given := ← s.given.put key value, pending := none }

/-- An option that takes no value. -/
def flag (s : Scan) (key : Key) : Except Usage Scan := do
  let s ← s.settle
  return { s with given := ← s.given.put key "" }

/-- An option whose value follows an equality sign. -/
def attached (s : Scan) (key : Key) (value : String) : Except Usage Scan := do
  let s ← s.settle
  return { s with given := ← s.given.put key value }

/-- An option whose value is the next word. -/
def await (s : Scan) (key : Key) : Except Usage Scan := do
  let s ← s.settle
  return { s with pending := some (key, none) }

/-- A word that starts with two dashes, without them. -/
def long (p : Place) (s : Scan) (word : String) : Except Usage Scan :=
  let (name, value) : String × Option String := match Text.cutAt? '=' word with
    | some (name, value) => (name, some value)
    | none => (word, none)
  match p.ofLong? name with
  | none => .error .unknownArgument
  | some key =>
    match key.takesValue, value with
    | true, some value => s.attached key value
    | true, none => s.await key
    | false, some _ => .error .needlessValue
    | false, none => s.flag key

/-- A letter after a dash. -/
def letter (p : Place) (s : Scan) (c : Char) : Except Usage Scan :=
  match p.ofLetter? c with
  | none => .error .unknownArgument
  | some key => s.flag key

/-- A word that is the value of an option or a plain one. -/
def word (p : Place) (s : Scan) (w : String) : Except Usage Scan :=
  match s.plain, s.pending with
  | false, some (key, none) => .ok { s with pending := some (key, some w) }
  | _, _ =>
    if p.hasOperand && s.words == 0 then do
      let s ← s.settle
      return { s with pending := some (.operand, some w), words := 1 }
    else .error p.unknownWord

/-- A word. -/
def step (p : Place) (s : Scan) (w : String) : Except Usage Scan :=
  if s.plain then s.word p w
  else match w.toList with
    | ['-', '-'] => .ok { s with plain := true }
    | '-' :: '-' :: rest => s.long p (String.ofList rest)
    | '-' :: c :: rest => (c :: rest).foldlM (letter p) s
    | _ => s.word p w

end Scan

end WebTestRun.Invocation
