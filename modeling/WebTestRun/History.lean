import WebTestRun.Attempt.Basic

/-!
# Histories

All attempts of a run that have ended, under the names of their tests. Tests stand in the order in
which their first attempts ended, the attempts of a test in the order in which they ended.

* `History` — the attempts.
* `History.push` — one attempt more.
-/

set_option autoImplicit false

namespace WebTestRun

/-- The attempts of a run that have ended. -/
structure History where
  /-- The attempts of each test, under its name. -/
  tests : List (String × List Attempt) := []
  /-- The names of tests that are known to be slow. -/
  slow : List String := []

namespace History

/-- The attempts of a test. -/
def attempts (h : History) (test : String) : List Attempt :=
  (Keyed.find? test h.tests).getD []

/-- One attempt more. -/
def push (h : History) (a : Attempt) : History :=
  { h with tests := Keyed.put a.name (h.attempts a.name ++ [a]) h.tests }

/-- A test is known to be slow. -/
def markSlow (h : History) (test : String) : History :=
  if test ∈ h.slow then h else { h with slow := test :: h.slow }

/-- Whether a test is known to be slow. -/
def isSlow (h : History) (test : String) : Bool := h.slow.contains test

/-- The number of tests. -/
def size (h : History) : Nat := h.tests.length

/-- The last attempt of a test meets a condition. -/
def endsWith (p : Attempt → Bool) (attempts : List Attempt) : Bool := attempts.getLast?.any p

/-- The number of tests whose last attempt passed. -/
def passes (h : History) : Nat := h.tests.countP fun t ↦ endsWith (·.verdict == .pass) t.2

/-- The number of tests whose last attempt is a regression. -/
def regressions (h : History) : Nat := h.tests.countP fun t ↦ endsWith Attempt.isRegression t.2

theorem attempts_push (h : History) (a : Attempt) (test : String) :
    (h.push a).attempts test =
      if a.name = test then h.attempts test ++ [a] else h.attempts test := by
  simp only [push, attempts, Keyed.find?_put]
  by_cases hn : a.name = test <;> simp [hn]

@[simp] theorem attempts_markSlow (h : History) (slow test : String) :
    (h.markSlow slow).attempts test = h.attempts test := by
  unfold markSlow
  split <;> rfl

end History

end WebTestRun
