import WebTestRun.Attempt.Basic
import WebTestRun.Baseline.Comparison
import WebTestRun.Baseline.Read
import WebTestRun.Decimal.Width
import WebTestRun.Log

/-!
# Attempts that are running

A running attempt takes the reports of its subtests, each under a name of its own, and ends with
the status of the test. A test with subtests passes when what was observed agrees with its
baseline, unless it timed out or crashed; any other test has the verdict of its status.

* `Attempt.Running` — what was reported so far.
* `Attempt.Running.report` — a subtest reports.
* `Attempt.Running.finish` — the test ends.
-/

set_option autoImplicit false

namespace WebTestRun.Attempt

/-- An attempt that has started and not ended. -/
structure Running extends Start where
  /-- What its subtests reported so far. -/
  outcomes : Outcomes := {}
  /-- Its diagnostic messages, each ended by a newline. -/
  messages : List String := []
  /-- Whether it had diagnostic messages. -/
  hasStderr : Bool := false

/-- A message that says something. -/
def said (message : Option String) : Option String := message.filter fun m ↦ !m.isEmpty

namespace Running

/-- A subtest reported before. -/
structure DuplicateSubtest where
  /-- The name of the subtest. -/
  subtest : String
  deriving DecidableEq, Repr

/-- How the status of a subtest is recorded. Tests without subtests record none. -/
def recordable? (r : Running) (status : String) : Option Recorded :=
  if r.kind.hasSubtests then Recorded.ofStatusName? status else none

/-- A subtest reports a status. A report that cannot be recorded still leaves its message. -/
def report (r : Running) (subtest status : String) (message : Option String) :
    Except DuplicateSubtest Running :=
  let recorded := r.recordable? status
  if recorded.isSome && Keyed.has subtest r.outcomes.subtests then .error ⟨subtest⟩
  else
    let message := said message
    .ok { r with
      messages := r.messages ++ (message.map fun m ↦ s!"{subtest}: {m}\n").toList
      hasStderr := r.hasStderr || message.isSome
      outcomes := match recorded with
        | none => r.outcomes
        | some s => { r.outcomes with
            subtests := r.outcomes.subtests ++ [(subtest, .single s message)] } }

/-- The baseline of the attempt. Without a text it is the empty one. -/
def baseline (r : Running) : Except Baseline.Error Baseline :=
  match r.baselineText with
  | some text => Baseline.read text
  | none => .ok {}

/-- Whether outcomes agree with the baseline, and what there is to say if they do not. -/
def agrees (r : Running) (outcomes : Outcomes) : Bool × List Log :=
  match r.baseline with
  | .error e =>
    (false, [.warning .attempt
      s!"treating {r.name} as failing because its baseline is invalid: {e.message}"])
  | .ok b =>
    match b.compare outcomes with
    | .ok _ => (true, [])
    | .error (.staleSubtests names) =>
      (false, [.warning .attempt (s!"{r.name}: subtests in the baseline did not run: " ++
        ", ".intercalate names)])
    | .error _ => (false, [])

/-- The milliseconds from one instant to a later one, as far as 63 bits hold them. -/
def elapsed (started ended : Int) : Nat :=
  min (ended - started).toNat (Width.signedLimit64 - 1)

/-- The outcomes once the test has ended: a status that can be recorded is that of the harness. -/
def outcomesAtEnd (r : Running) (status : Status) (message : Option String) : Outcomes :=
  if r.kind.hasSubtests then
    match status.recorded? with
    | some s => { r.outcomes with harnessError := some (.single s (said message)) }
    | none => r.outcomes
  else r.outcomes

/-- The verdict on the attempt, and what there is to say about it. -/
def judge (r : Running) (status : Status) (outcomes : Outcomes) : Verdict × List Log :=
  if r.kind.hasSubtests && status.verdict != .timeout && status.verdict != .crash then
    let (agreed, logs) := r.agrees outcomes
    (if agreed then .pass else .failure, logs)
  else (status.verdict, [])

/-- The test ends with a status. -/
def finish (r : Running) (status : String) (message : Option String) (ended : Int) :
    Except Status.Unknown (Attempt × List Log) :=
  (Status.parse status).map fun s ↦
    let outcomes := r.outcomesAtEnd s message
    let (verdict, logs) := r.judge s outcomes
    ({ toStart := r.toStart
       verdict, outcomes
       took := elapsed r.started ended
       messages := ((said message).map fun m ↦ s!"Harness: {m}\n").toList ++ r.messages
       hasStderr := r.hasStderr || (said message).isSome }, logs)

end Running

end WebTestRun.Attempt
