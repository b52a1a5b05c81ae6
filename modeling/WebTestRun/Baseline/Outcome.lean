import WebTestRun.Collection.Keyed
import WebTestRun.TestKind

/-!
# Outcomes

The outcomes of a test are what its subtests reported, in the order of their first reports, and
whether the harness itself failed. A baseline declares outcomes, an attempt observes them.

* `Outcome` — the statuses of one subtest, and a message.
* `Outcomes` — those of a test.
* `Outcomes.allPass` — nothing in them needs a baseline.
-/

set_option autoImplicit false

namespace WebTestRun

/-- What one subtest reported, or may report. -/
structure Outcome where
  /-- The statuses: one if observed, several if a baseline allows them. -/
  statuses : Choice Recorded
  /-- The message that came with them. -/
  message : Option String := none
  deriving DecidableEq

/-- One status. -/
def Outcome.single (s : Recorded) (message : Option String := none) : Outcome :=
  ⟨.ofList [s], message⟩

/-- No status but `PASS`. -/
def Outcome.passes (o : Outcome) : Bool := o.statuses.toList.all (· == .pass)

/-- The outcomes of a test. -/
structure Outcomes where
  /-- The failure of the harness, if it failed. -/
  harnessError : Option Outcome := none
  /-- The subtests under their names, in the order in which they came. -/
  subtests : List (String × Outcome) := []
  deriving DecidableEq

namespace Outcomes

/-- Nothing was reported. -/
def isEmpty (o : Outcomes) : Bool := o.harnessError.isNone && o.subtests.isEmpty

/-- One more subtest, unless there is one of its name. -/
def addSubtest? (o : Outcomes) (name : String) (outcome : Outcome) : Option Outcomes :=
  if Keyed.has name o.subtests then none
  else some { o with subtests := o.subtests ++ [(name, outcome)] }

/-- Every status in the outcomes is `PASS`. -/
def allPass (o : Outcomes) : Bool :=
  o.harnessError.all Outcome.passes && o.subtests.all fun s ↦ s.2.passes

end Outcomes

end WebTestRun
