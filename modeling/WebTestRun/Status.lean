import WebTestRun.Verdict

/-!
# Statuses

The runner reports a status for each test and subtest. Every status means one verdict; a baseline
can record all of them but those that say nothing about a subtest (`OK`, `CRASH`, `SKIP`).

* `Status` — what the runner reports.
* `Status.verdict` — what it means.
* `Recorded` — what a baseline records, and `Status.recorded?` between the two.
-/

set_option autoImplicit false

namespace WebTestRun

/-- A status as the runner reports it. -/
inductive Status where
  | ok | fail | pass | timeout | error | crash | preconditionFailed | skip | notRun
  deriving DecidableEq, Repr, Inhabited

/-- A status as a baseline records it. -/
inductive Recorded where
  | fail | pass | timeout | error | preconditionFailed | notRun
  deriving DecidableEq, Repr, Inhabited

instance : Named Recorded where
  all := [.fail, .pass, .timeout, .error, .preconditionFailed, .notRun]
  mem_all a := by cases a <;> decide
  name
    | .fail => "FAIL"
    | .pass => "PASS"
    | .timeout => "TIMEOUT"
    | .error => "ERROR"
    | .preconditionFailed => "PRECONDITION_FAILED"
    | .notRun => "NOTRUN"
  name_injective a b := by cases a <;> cases b <;> decide

namespace Status

instance : Named Status where
  all := [ok, fail, pass, timeout, error, crash, preconditionFailed, skip, notRun]
  mem_all a := by cases a <;> decide
  name
    | ok => "OK"
    | fail => "FAIL"
    | pass => "PASS"
    | timeout => "TIMEOUT"
    | error => "ERROR"
    | crash => "CRASH"
    | preconditionFailed => "PRECONDITION_FAILED"
    | skip => "SKIP"
    | notRun => "NOTRUN"
  name_injective a b := by cases a <;> cases b <;> decide

/-- The verdict that a status means. -/
def verdict : Status → Verdict
  | ok | pass => .pass
  | fail | error | preconditionFailed | notRun => .failure
  | timeout => .timeout
  | crash => .crash
  | skip => .skip

/-- How a baseline records a status, if it can. -/
def recorded? : Status → Option Recorded
  | fail => some .fail
  | pass => some .pass
  | timeout => some .timeout
  | error => some .error
  | preconditionFailed => some .preconditionFailed
  | notRun => some .notRun
  | ok | crash | skip => none

/-- A text that names no status. -/
structure Unknown where
  /-- The text. -/
  text : String
  deriving DecidableEq, Repr

/-- What is said about it. -/
def Unknown.message (e : Unknown) : String :=
  s!"unknown test status `{e.text}` (known statuses: " ++ Named.names Status ++ ")"

/-- The status of a name. -/
def parse (s : String) : Except Unknown Status :=
  match Named.ofName? s with
  | some v => .ok v
  | none => .error ⟨s⟩

/-- The statuses of several names, each once and in their order. The first name that is none is
reported. -/
def parseAll (names : List String) : Except Unknown (Choice Status) :=
  (names.mapM parse).map Choice.ofList

end Status

/-- How a baseline records the status of a name, if it can. -/
def Recorded.ofStatusName? (s : String) : Option Recorded :=
  (Named.ofName? (α := Status) s).bind Status.recorded?

end WebTestRun
