import WebTestRun.Baseline.Comparison
import WebTestRun.Proofs.Collection.Keyed

/-!
# When a comparison succeeds

* `Outcome.compared?` — the message of an observed outcome that a comparison looks at.
* `compare_eq_ok_iff` — a comparison succeeds if it finds no difference of any sort.
* `statusMismatch?_eq_none_iff` — when a single status of a subtest is as declared.
-/

set_option autoImplicit false

namespace WebTestRun

/-- The message of an outcome that a comparison looks at: that of a failure. -/
def Outcome.compared? (o : Outcome) : Option String :=
  if o.statuses.has .fail || o.statuses.has .preconditionFailed then o.message else none

@[simp] theorem Outcome.toList_single (s : Recorded) (m : Option String) :
    (Outcome.single s m).statuses.toList = [s] := by
  cases s <;> rfl

theorem Outcome.compared?_single (s : Recorded) (m : Option String) :
    (Outcome.single s m).compared? =
      if s = .fail ∨ s = .preconditionFailed then m else none := by
  cases s <;> rfl

namespace Baseline

theorem compare_eq_ok_iff {b : Baseline} {o : Outcomes} :
    b.compare o = .ok () ↔
      (∀ s ∈ o.subtests, b.subtestMismatch? s = none) ∧ b.stale o = [] ∧
        b.outcomes.harnessError.map Outcome.statuses = o.harnessError.map Outcome.statuses := by
  rw [compare, ← List.findSome?_eq_none_iff]
  cases o.subtests.findSome? b.subtestMismatch? with
  | some m => simp
  | none =>
    cases h : b.stale o with
    | nil => simp
    | cons name names => simp

/-- A listed status is as declared if the message is, where there is one to compare. -/
theorem statusMismatch?_eq_none_iff {declared : Option Outcome} {name : String} {o : Outcome}
    {s : Recorded} (h : allows declared s = true) :
    statusMismatch? declared name o s = none ↔
      ∀ m ∈ requiredMessage? declared s, o.message = some m := by
  rw [statusMismatch?, h]
  cases requiredMessage? declared s with
  | none => simp
  | some m => by_cases hm : o.message = some m <;> simp [hm]

theorem stale_eq_nil_iff {b : Baseline} {o : Outcomes} :
    b.stale o = [] ↔ ∀ name ∈ Keyed.keys b.outcomes.subtests, Keyed.has name o.subtests = true := by
  simp [stale]

end Baseline

end WebTestRun
