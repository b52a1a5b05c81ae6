import WebTestRun.Collection.Named

/-!
# Verdicts

What a run reports about an attempt, whatever kind of test it was. Expectations are sets of
verdicts, and reports count attempts by verdict.

* `Verdict` — the five verdicts, in order of precedence.
* `Verdict.parse` — the verdict of a name.
-/

set_option autoImplicit false

namespace WebTestRun

/-- The verdict on an attempt, or one that an expectation allows. -/
inductive Verdict where
  | pass | failure | skip | timeout | crash
  deriving DecidableEq, Repr, Inhabited

namespace Verdict

instance : Named Verdict where
  all := [pass, failure, skip, timeout, crash]
  mem_all a := by cases a <;> decide
  name
    | pass => "PASS"
    | failure => "FAIL"
    | skip => "SKIP"
    | timeout => "TIMEOUT"
    | crash => "CRASH"
  name_injective a b := by cases a <;> cases b <;> decide

/-- A text that names no verdict. -/
structure Unknown where
  /-- The text. -/
  text : String
  deriving DecidableEq, Repr

/-- What is said about it. -/
def Unknown.message (e : Unknown) : String :=
  s!"unknown result type `{e.text}` (known types: " ++ Named.names Verdict ++ ")"

/-- The verdict of a name. -/
def parse (s : String) : Except Unknown Verdict :=
  match Named.ofName? s with
  | some v => .ok v
  | none => .error ⟨s⟩

end Verdict

end WebTestRun
