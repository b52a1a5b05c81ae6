import WebTestRun.Baseline.Basic
import WebTestRun.Text.Blank

/-!
# Holding observed outcomes against a baseline

A subtest that a baseline does not list must pass. One that it lists must report a status of its
list, and the declared message when it fails. Every listed subtest must report, and the harness
must fail exactly as declared.

* `Baseline.Mismatch` — the first difference.
* `Baseline.compare` — the search for it.
* `Baseline.accepts` — there is none.
-/

set_option autoImplicit false

namespace WebTestRun.Baseline

/-- How observed outcomes differ from a baseline. -/
inductive Mismatch where
  /-- A subtest reported a status that it may not report. -/
  | status (subtest : String) (observed : Recorded)
  /-- A subtest failed with another message. -/
  | message (subtest : String)
  /-- Listed subtests did not report. -/
  | staleSubtests (names : List String)
  /-- The harness failed and should not have, or the other way round, or differently. -/
  | harnessError
  deriving DecidableEq, Repr

/-- Whether a baseline allows a status, given what it declares for the subtest. -/
def allows (declared : Option Outcome) (s : Recorded) : Bool :=
  match declared with
  | some o => o.statuses.has s
  | none => s == .pass

/-- The message that a subtest must report with a status, if a baseline declares one. -/
def requiredMessage? (declared : Option Outcome) (s : Recorded) : Option String :=
  match declared.bind Outcome.message with
  | some m =>
    if !m.isEmpty && (s == .fail || s == .preconditionFailed) then
      some (String.ofList (Text.trim m.toList))
    else none
  | none => none

/-- The difference in one status of a subtest. The status comes before the message. -/
def statusMismatch? (declared : Option Outcome) (name : String) (observed : Outcome)
    (s : Recorded) : Option Mismatch :=
  if !allows declared s then some (.status name s)
  else match requiredMessage? declared s with
    | some m => if observed.message == some m then none else some (.message name)
    | none => none

/-- The first difference in a subtest, its statuses taken in order. -/
def subtestMismatch? (b : Baseline) (subtest : String × Outcome) : Option Mismatch :=
  subtest.2.statuses.toList.findSome?
    (statusMismatch? (Keyed.find? subtest.1 b.outcomes.subtests) subtest.1 subtest.2)

/-- The listed subtests that did not report, in the order of the baseline. -/
def stale (b : Baseline) (observed : Outcomes) : List String :=
  (Keyed.keys b.outcomes.subtests).filter fun name ↦ !Keyed.has name observed.subtests

/-- The first difference: subtests in the order in which they reported, then those that did not
report, then the harness. -/
def compare (b : Baseline) (observed : Outcomes) : Except Mismatch Unit :=
  match observed.subtests.findSome? b.subtestMismatch? with
  | some m => .error m
  | none =>
    let missing := b.stale observed
    if !missing.isEmpty then .error (.staleSubtests missing)
    else if b.outcomes.harnessError.map Outcome.statuses =
        observed.harnessError.map Outcome.statuses
    then .ok ()
    else .error .harnessError

/-- The outcomes are as declared. -/
def accepts (b : Baseline) (observed : Outcomes) : Bool :=
  match b.compare observed with
  | .ok _ => true
  | .error _ => false

end WebTestRun.Baseline
