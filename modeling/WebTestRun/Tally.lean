import WebTestRun.Verdict

/-!
# Tallies

* `Tally` — how many attempts had each verdict.
-/

set_option autoImplicit false

namespace WebTestRun

/-- How many attempts had each verdict. -/
structure Tally where
  /-- How many passed. -/
  pass : Nat := 0
  /-- How many failed. -/
  failure : Nat := 0
  /-- How many were skipped. -/
  skip : Nat := 0
  /-- How many timed out. -/
  timeout : Nat := 0
  /-- How many crashed. -/
  crash : Nat := 0
  deriving DecidableEq, Repr

namespace Tally

/-- How many attempts had a verdict. -/
def get (t : Tally) : Verdict → Nat
  | .pass => t.pass
  | .failure => t.failure
  | .skip => t.skip
  | .timeout => t.timeout
  | .crash => t.crash

/-- One attempt more. -/
def add (t : Tally) : Verdict → Tally
  | .pass => { t with pass := t.pass + 1 }
  | .failure => { t with failure := t.failure + 1 }
  | .skip => { t with skip := t.skip + 1 }
  | .timeout => { t with timeout := t.timeout + 1 }
  | .crash => { t with crash := t.crash + 1 }

/-- The counts of all verdicts, in their order. -/
def counts (t : Tally) : List (Verdict × Nat) :=
  (Listed.all : List Verdict).map fun v ↦ (v, t.get v)

theorem get_add (t : Tally) (v w : Verdict) :
    (t.add v).get w = if v = w then t.get w + 1 else t.get w := by
  cases v <;> cases w <;> rfl

end Tally

end WebTestRun
