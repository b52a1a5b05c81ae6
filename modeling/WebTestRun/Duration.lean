import WebTestRun.Decimal.Width
import WebTestRun.Text.Blank

/-!
# Durations

A duration is written as numbers with units, such as `1h 30m` or `1.5s`. The parts are added up.
The units are lengths of time that do not depend on a calendar: a month is 30.44 days and a year
is 365.25 days. Seconds fit 64 bits.

* `Duration.parse?` — the nanoseconds of a text.
-/

set_option autoImplicit false

namespace WebTestRun.Duration

/-- A unit of time. -/
inductive Unit where
  | nanosecond | microsecond | millisecond | second | minute | hour | day | week | month | year
  deriving DecidableEq, Repr

namespace Unit

/-- The names of a unit. -/
def names : Unit → List String
  | nanosecond => ["nanos", "nsec", "ns"]
  | microsecond => ["usec", "us", "µs"]
  | millisecond => ["millis", "msec", "ms"]
  | second => ["seconds", "second", "secs", "sec", "s"]
  | minute => ["minutes", "minute", "min", "mins", "m"]
  | hour => ["hours", "hour", "hrs", "hr", "h"]
  | day => ["days", "day", "d"]
  | week => ["weeks", "week", "wks", "wk", "w"]
  | month => ["months", "month", "M"]
  | year => ["years", "year", "yrs", "yr", "y"]

/-- Every unit. -/
def all : List Unit :=
  [nanosecond, microsecond, millisecond, second, minute, hour, day, week, month, year]

/-- The unit of a name. -/
def ofName? (name : String) : Option Unit := all.find? fun u ↦ u.names.contains name

/-- The length of a unit from the second on, in seconds, or of a shorter one in nanoseconds. -/
def length : Unit → Nat
  | nanosecond => 1
  | microsecond => 1000
  | millisecond => 1000000
  | second => 1
  | minute => 60
  | hour => 3600
  | day => 86400
  | week => 604800
  | month => 2630016
  | year => 31557600

/-- Whether a unit is shorter than a second. -/
def isShort : Unit → Bool
  | nanosecond | microsecond | millisecond => true
  | _ => false

end Unit

/-- A number with a unit: a whole part and, with a point, the digits after it. -/
structure Part where
  /-- The whole part. -/
  whole : Nat
  /-- The digits after the point, as numerator and denominator. -/
  fraction : Option (Nat × Nat)
  /-- The name of the unit. -/
  unit : String

/-! ## Reading the parts -/

/-- The characters of names of units. -/
def isUnitChar (c : Char) : Bool := c.isAlpha || c = 'µ'

/-- Decimal digits with blanks between them, and what follows. -/
def looseDigits (s : List Char) : List Char × List Char :=
  let isLoose (c : Char) : Bool := c.isDigit || Text.isBlank c
  ((s.takeWhile isLoose).filter Char.isDigit, s.dropWhile isLoose)

/-- The value of decimal digits, if it fits 64 bits. -/
def value? (digits : List Char) : Option Nat :=
  let n := digits.foldl (fun n c ↦ n * 10 + (c.toNat - '0'.toNat)) 0
  if n < Width.limit64 then some n else none

/-- The digits after a point, of which there must be one, as numerator and denominator. -/
def fraction? (digits : List Char) : Option (Nat × Nat) :=
  if digits.isEmpty || 19 < digits.length then none
  else (value? digits).map fun n ↦ (n, Nat.pow 10 digits.length)

/-- The part at the start of a text that starts with a digit, and what follows it. -/
def part? (s : List Char) : Option (Part × List Char) := do
  let (digits, s) := looseDigits s
  let whole ← value? digits
  let (fraction, s) ← match s with
    | '.' :: rest =>
      let (digits, s) := looseDigits rest
      (fraction? digits).map fun f ↦ (some f, s)
    | s => some (none, s)
  let unit := s.takeWhile isUnitChar
  let s := s.dropWhile isUnitChar
  match s with
  | [] => return (⟨whole, fraction, String.ofList unit⟩, [])
  | c :: _ =>
    if c.isDigit || Text.isBlank c then return (⟨whole, fraction, String.ofList unit⟩, s)
    else none

/-- The parts of a text. The number bounds how many there can be. -/
def parts? : (bound : Nat) → List Char → Option (List Part)
  | 0, _ => none
  | bound + 1, s =>
    match s.dropWhile Text.isBlank with
    | [] => some []
    | c :: rest =>
      if c.isDigit then (part? (c :: rest)).bind fun r ↦ (parts? bound r.2).map (r.1 :: ·)
      else none

/-! ## Adding up -/

/-- A number that fits 64 bits. -/
def fits? (n : Nat) : Option Nat := if n < Width.limit64 then some n else none

/-- How many nanoseconds a second has. -/
def nanosPerSecond : Nat := 1000000000

/-- Seconds and nanoseconds added to a length of time in nanoseconds. -/
def add? (total seconds nanos : Nat) : Option Nat := do
  let below ← fits? (total % nanosPerSecond + nanos)
  let _ ← fits? (total / nanosPerSecond + (← fits? (seconds + below / nanosPerSecond)))
  return total + seconds * nanosPerSecond + nanos

/-- What the fraction of a part adds, as seconds and nanoseconds, rounded down. -/
def ofFraction? (unit : Unit) (numerator denominator : Nat) : Option (Nat × Nat) :=
  match unit with
  | .nanosecond => none
  | .microsecond | .millisecond =>
    (fits? (numerator * unit.length)).map fun n ↦ (0, n / denominator)
  | .second | .minute =>
    (fits? (numerator * (unit.length * nanosPerSecond))).map fun n ↦ (0, n / denominator)
  | _ => (fits? (numerator * unit.length)).map fun n ↦ (n / denominator, 0)

/-- A length of time with one part more. -/
def addPart? (total : Nat) (p : Part) : Option Nat := do
  let unit ← Unit.ofName? p.unit
  let amount ← fits? (p.whole * unit.length)
  let total ← if unit.isShort then add? total 0 amount else add? total amount 0
  match p.fraction with
  | none => return total
  | some (numerator, denominator) =>
    let (seconds, nanos) ← ofFraction? unit numerator denominator
    add? total seconds nanos

/-- The nanoseconds of a text. A zero needs no unit. -/
def parse? (s : String) : Option Nat :=
  if s = "0" then some 0
  else
    (parts? (s.toList.length + 1) s.toList).bind fun parts ↦
      if parts.isEmpty then none else parts.foldlM addPart? 0

end WebTestRun.Duration
