import WebTestRun.Decimal.Width
import WebTestRun.Json.Written
import WebTestRun.Text.Cut
import WebTestRun.Text.Quoted
import WebTestRun.Verdict

/-!
# Thresholds

A run can be told to stop after too many unexpected results. Two budgets are kept, one for
failures and one for crashes and timeouts, and whichever is spent first stops the run, once.

* `Threshold` — a budget, `Threshold.parse` and `Threshold.ofJson` to read one.
* `Budgets` — both budgets and what was spent of them.
* `Budgets.record` — an unexpected result.
-/

set_option autoImplicit false

namespace WebTestRun

/-- How many unexpected results a run may have. -/
inductive Threshold where
  | unbounded
  /-- The predecessor of the number, which is never zero. -/
  | upTo (pred : Nat)
  deriving DecidableEq, Repr

namespace Threshold

instance : Inhabited Threshold := ⟨.unbounded⟩

/-- A number as a threshold, unless it is not positive. -/
def ofInt? (n : Int) : Option Threshold := if 0 < n then some (.upTo (n.toNat - 1)) else none

/-- More results were seen than may be. -/
def isExceeded (t : Threshold) (seen : Nat) : Bool :=
  match t with
  | .unbounded => false
  | .upTo pred => pred + 1 < seen

/-- The text of a threshold. -/
def text : Threshold → String
  | .unbounded => "unbounded"
  | .upTo pred => toString (pred + 1)

/-! ## Reading a threshold from a command line -/

/-- Why a text is no threshold. -/
inductive Reason where
  | notNumber | notPositive
  deriving DecidableEq, Repr

/-- A text that is no threshold. -/
structure Malformed where
  /-- The text. -/
  text : String
  /-- Why it is none. -/
  reason : Reason
  deriving DecidableEq, Repr

/-- What is said about a reason. -/
def Reason.message : Reason → String
  | .notNumber => "expected a positive integer or \"unbounded\""
  | .notPositive => "threshold may not be <= 0"

/-- What is said about a malformed threshold. -/
def Malformed.message (e : Malformed) : String :=
  s!"invalid threshold `{e.text}`: {e.reason.message}"

/-- The value of decimal digits, at least one of them. -/
def digits? (s : List Char) : Option Nat :=
  if !s.isEmpty && s.all Char.isDigit then
    some (s.foldl (fun n c ↦ n * 10 + (c.toNat - '0'.toNat)) 0)
  else none

/-- The integer of 64 bits that a text spells: digits, with a sign in front if there is one. -/
def integer? (s : List Char) : Option Int :=
  match s with
  | '-' :: rest => (digits? rest).bind fun n ↦
    if n ≤ Width.signedLimit64 then some (-(n : Int)) else none
  | '+' :: rest => (digits? rest).bind fun n ↦
    if n < Width.signedLimit64 then some (n : Int) else none
  | rest => (digits? rest).bind fun n ↦
    if n < Width.signedLimit64 then some (n : Int) else none

/-- The threshold that a text spells. -/
def parse (s : String) : Except Malformed Threshold :=
  if Text.equalsIgnoringCase s "unbounded" then .ok .unbounded
  else match integer? s.toList with
    | none => .error ⟨s, .notNumber⟩
    | some n =>
      match ofInt? n with
      | some t => .ok t
      | none => .error ⟨s, .notPositive⟩

/-! ## Reading a threshold from a configuration -/

/-- Why a value is no threshold. -/
inductive Unfit where
  /-- It is of the wrong type, which is named. -/
  | wrongType (found : String)
  /-- It is a number that is not positive. -/
  | wrongNumber (n : Int)
  /-- It is a text that spells a positive number. -/
  | quotedNumber (s : String)
  /-- It is a text that spells a number that is not positive. -/
  | quotedNonPositive (s : String)
  /-- It is another text. -/
  | wrongText (s : String)
  deriving DecidableEq, Repr

/-- What is said about an unfit value. -/
def Unfit.message : Unfit → String
  | .wrongType found =>
    s!"invalid type: {found}, expected a positive integer or the string \"unbounded\""
  | .wrongNumber n =>
    s!"invalid value: integer `{n}`, expected a positive integer or the string \"unbounded\""
  | .quotedNumber s => "invalid value: string " ++ Text.quoted s ++
    ", expected the string \"unbounded\" (numbers must be specified without quotes)"
  | .quotedNonPositive s => "invalid value: string " ++ Text.quoted s ++
    ", expected the string \"unbounded\" (numbers must be positive and without quotes)"
  | .wrongText s => "invalid value: string " ++ Text.quoted s ++
    ", expected the string \"unbounded\" or a positive integer"

/-- The threshold of a text in a configuration. -/
def ofText (s : String) : Except Unfit Threshold :=
  if s = "unbounded" then .ok .unbounded
  else match integer? s.toList with
    | some n => .error (if 0 < n then .quotedNumber s else .quotedNonPositive s)
    | none => .error (.wrongText s)

/-- The threshold of a number in a configuration. -/
def ofInt (n : Int) : Except Unfit Threshold :=
  match ofInt? n with
  | some t => .ok t
  | none => .error (.wrongNumber n)

/-- The threshold of a value in a configuration. -/
def ofJson : Json → Except Unfit Threshold
  | .string s => ofText s
  | .number (.integer n) => ofInt n
  | .number (.real x) => .error (.wrongType s!"floating point `{Json.writtenNumber (.real x)}`")
  | .bool b => .error (.wrongType (if b then "boolean `true`" else "boolean `false`"))
  | .null => .error (.wrongType "null")
  | .array _ => .error (.wrongType "sequence")
  | .object _ => .error (.wrongType "map")

end Threshold

/-! ## Two budgets -/

/-- Which budget was spent. -/
inductive Exceeded where
  | failures | crashesOrTimeouts
  deriving DecidableEq, Repr

/-- The words for a budget. -/
def Exceeded.name : Exceeded → String
  | .failures => "failures"
  | .crashesOrTimeouts => "crashes/timeouts"

/-- The budgets of a run and what was spent of them. -/
structure Budgets where
  /-- How many unexpected failures there may be. -/
  failure : Threshold := .unbounded
  /-- How many unexpected crashes and timeouts there may be together. -/
  crashTimeout : Threshold := .unbounded
  /-- The unexpected failures so far. -/
  failures : Nat := 0
  /-- The unexpected crashes and timeouts so far. -/
  crashesTimeouts : Nat := 0
  /-- The budget that was spent first. -/
  exceeded : Option Exceeded := none
  deriving DecidableEq, Repr

namespace Budgets

/-- The budgets after an unexpected verdict, and which of them it counts against. -/
def count (b : Budgets) : Verdict → Budgets × Option (Threshold × Nat × Exceeded)
  | .failure =>
    ({ b with failures := b.failures + 1 }, some (b.failure, b.failures + 1, .failures))
  | .crash | .timeout =>
    ({ b with crashesTimeouts := b.crashesTimeouts + 1 },
      some (b.crashTimeout, b.crashesTimeouts + 1, .crashesOrTimeouts))
  | .pass | .skip => (b, none)

/-- An unexpected verdict is recorded. The first one that spends a budget is signalled. -/
def record (b : Budgets) (v : Verdict) : Budgets × Option Exceeded :=
  match b.count v with
  | (b, none) => (b, none)
  | (b, some (threshold, seen, which)) =>
    if threshold.isExceeded seen && b.exceeded.isNone then
      ({ b with exceeded := some which }, some which)
    else (b, none)

end Budgets

end WebTestRun
