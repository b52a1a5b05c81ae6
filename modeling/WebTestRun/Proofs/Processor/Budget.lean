import WebTestRun.Processor.Consume
import WebTestRun.Proofs.Collection.Keyed
import WebTestRun.Proofs.Processor.Run
import WebTestRun.Proofs.Threshold

/-!
# Budgets that are spent

A run counts its unexpected failures, and its unexpected crashes and timeouts together. The attempt
that first makes one of these counts larger than it may be is signalled, and no other ever is.

* `Attempt.budget?` — the budget that an attempt counts against.
* `Overrun` — more attempts count against a budget than may.
* `Budgets.Accurate` — the counts are those of some attempts, and the latch says whether they are
  too many.
* `Processor.step_result` — what an event does to budgets and attempts.
* `Processor.budget_signalled_once` — when a run signals that a budget is spent.
-/

set_option autoImplicit false

namespace WebTestRun

/-! ## What counts against a budget -/

theorem Threshold.isExceeded_iff (t : Threshold) (seen : Nat) :
    t.isExceeded seen = true ↔ ∃ n ∈ t.count?, n < seen := by
  cases t <;> simp [isExceeded, count?]

/-- The budget that a verdict counts against, if it is unexpected. -/
def Verdict.budget? : Verdict → Option Exceeded
  | .failure => some .failures
  | .crash | .timeout => some .crashesOrTimeouts
  | .pass | .skip => none

/-- The budget that an attempt counts against. -/
def Attempt.budget? (a : Attempt) : Option Exceeded :=
  if a.unexpected then a.verdict.budget? else none

theorem Attempt.budget?_eq_none {a : Attempt}
    (h : a.unexpected = false ∨ a.verdict = .pass ∨ a.verdict = .skip) : a.budget? = none := by
  rw [budget?]
  rcases h with h | h | h
  · rw [h, if_neg Bool.false_ne_true]
  · rw [h, Verdict.budget?, ite_self]
  · rw [h, Verdict.budget?, ite_self]

/-- The thresholds of the budgets. -/
def Config.Processing.threshold (c : Config.Processing) : Exceeded → Threshold
  | .failures => c.failureThreshold
  | .crashesOrTimeouts => c.crashTimeoutThreshold

/-- More attempts count against a budget than may. -/
def Overrun (threshold : Exceeded → Threshold) (attempts : List Attempt) (which : Exceeded) :
    Prop :=
  ∃ n ∈ (threshold which).count?, n < attempts.countP (·.budget? = some which)

theorem Overrun.mono {threshold : Exceeded → Threshold} {attempts : List Attempt}
    {which : Exceeded} (h : Overrun threshold attempts which) (more : List Attempt) :
    Overrun threshold (attempts ++ more) which := by
  obtain ⟨n, hn, hlt⟩ := h
  exact ⟨n, hn, Nat.lt_of_lt_of_le hlt (List.sublist_append_left ..).countP_le⟩

/-- An attempt that does not count against a budget does not overrun it. -/
theorem overrun_concat_of_ne {threshold : Exceeded → Threshold} {attempts : List Attempt}
    {a : Attempt} {which : Exceeded} (h : a.budget? ≠ some which) :
    Overrun threshold (attempts ++ [a]) which ↔ Overrun threshold attempts which := by
  rw [Overrun, Overrun, List.countP_append, List.countP_singleton, if_neg (by simpa using h),
    Nat.add_zero]

/-! ## All attempts of a history -/

/-- All attempts, test after test. -/
def History.all (h : History) : List Attempt := h.tests.flatMap (·.2)

theorem History.all_push_perm (h : History) (a : Attempt) : (h.push a).all.Perm (h.all ++ [a]) :=
  Keyed.flatMap_put_perm a.name a h.tests

theorem Overrun.perm {threshold : Exceeded → Threshold} {attempts attempts' : List Attempt}
    (h : attempts.Perm attempts') (which : Exceeded) :
    Overrun threshold attempts which ↔ Overrun threshold attempts' which := by
  rw [Overrun, Overrun, h.countP_eq]

/-! ## Budgets and the attempts that they count -/

namespace Budgets

/-- The thresholds of the budgets. -/
def threshold (b : Budgets) : Exceeded → Threshold
  | .failures => b.failure
  | .crashesOrTimeouts => b.crashTimeout

/-- What was spent of a budget. -/
def spent (b : Budgets) : Exceeded → Nat
  | .failures => b.failures
  | .crashesOrTimeouts => b.crashesTimeouts

/-- One more is spent of a budget. -/
def spend (b : Budgets) : Exceeded → Budgets
  | .failures => { b with failures := b.failures + 1 }
  | .crashesOrTimeouts => { b with crashesTimeouts := b.crashesTimeouts + 1 }

variable {b : Budgets} {attempts : List Attempt} {which : Exceeded}

@[simp] theorem threshold_spend (b : Budgets) (which : Exceeded) :
    (b.spend which).threshold = b.threshold := by
  cases which <;> rfl

@[simp] theorem exceeded_spend (b : Budgets) (which : Exceeded) :
    (b.spend which).exceeded = b.exceeded := by
  cases which <;> rfl

theorem spent_spend (b : Budgets) (which w : Exceeded) :
    (b.spend which).spent w = b.spent w + if which = w then 1 else 0 := by
  cases which <;> cases w <;> rfl

theorem record_of_none {v : Verdict} (h : v.budget? = none) : b.record v = (b, none) := by
  cases v with
  | pass | skip => rfl
  | failure | crash | timeout => cases h

theorem record_of_some {v : Verdict} (h : v.budget? = some which) :
    b.record v =
      if (b.threshold which).isExceeded ((b.spend which).spent which) && b.exceeded.isNone then
        ({ b.spend which with exceeded := some which }, some which)
      else (b.spend which, none) := by
  cases v with
  | pass | skip => cases h
  | failure | crash | timeout =>
    cases h
    rfl

/-- Budgets that count some attempts, and whose latch says whether they are too many. -/
structure Accurate (b : Budgets) (attempts : List Attempt) : Prop where
  /-- What was spent of a budget are the attempts that count against it. -/
  spent : ∀ which, b.spent which = attempts.countP (·.budget? = some which)
  /-- A budget is said to be spent if one is overrun. -/
  exceeded : b.exceeded.isSome ↔ ∃ which, Overrun b.threshold attempts which

theorem Accurate.perm {attempts' : List Attempt} (h : b.Accurate attempts)
    (hperm : attempts.Perm attempts') : b.Accurate attempts' where
  spent which := by rw [h.spent, hperm.countP_eq]
  exceeded := h.exceeded.trans (exists_congr (Overrun.perm hperm))

end Budgets

namespace Processor

variable {b : Budgets} {a : Attempt} {attempts : List Attempt} {which : Exceeded}

theorem charge_of_none (b : Budgets) (h : a.budget? = none) : charge b a = (b, none) := by
  rw [Attempt.budget?] at h
  rw [charge]
  split at h
  · rename_i hunexpected
    rw [if_pos hunexpected, Budgets.record_of_none h]
  · rename_i hexpected
    exact if_neg hexpected

theorem charge_of_some (b : Budgets) (h : a.budget? = some which) :
    charge b a =
      if (b.threshold which).isExceeded ((b.spend which).spent which) && b.exceeded.isNone then
        ({ b.spend which with exceeded := some which }, some which)
      else (b.spend which, none) := by
  rw [Attempt.budget?] at h
  rw [charge]
  split at h
  · rename_i hunexpected
    rw [if_pos hunexpected, Budgets.record_of_some h]
  · cases h

theorem threshold_charge (b : Budgets) (a : Attempt) :
    (charge b a).1.threshold = b.threshold := by
  cases h : a.budget? with
  | none => rw [charge_of_none b h]
  | some which =>
    rw [charge_of_some b h]
    split
    · exact b.threshold_spend which
    · exact b.threshold_spend which

/-- A signal is what the latch gets, and it gets one only. -/
theorem exceeded_charge (b : Budgets) (a : Attempt) :
    (charge b a).1.exceeded.toList = b.exceeded.toList ++ (charge b a).2.toList := by
  cases h : a.budget? with
  | none => rw [charge_of_none b h, Option.toList_none, List.append_nil]
  | some which =>
    rw [charge_of_some b h]
    split
    · rename_i hsignal
      rw [Bool.and_eq_true, Option.isNone_iff_eq_none] at hsignal
      rw [hsignal.2, Option.toList_none, List.nil_append]
    · rw [Budgets.exceeded_spend, Option.toList_none, List.append_nil]

/-- What was spent with an attempt is what counts against the budget, that attempt included. -/
theorem spent_concat (h : b.Accurate attempts) (ha : a.budget? = some which) (w : Exceeded) :
    (b.spend which).spent w = (attempts ++ [a]).countP (·.budget? = some w) := by
  rw [Budgets.spent_spend, h.spent, List.countP_append, List.countP_singleton]
  simp [ha]

theorem isExceeded_iff_overrun (h : b.Accurate attempts) (ha : a.budget? = some which) :
    (b.threshold which).isExceeded ((b.spend which).spent which) = true ↔
      Overrun b.threshold (attempts ++ [a]) which := by
  rw [Threshold.isExceeded_iff, spent_concat h ha, Overrun]

/-- **Charging an attempt keeps budgets accurate.** -/
theorem accurate_charge (h : b.Accurate attempts) (a : Attempt) :
    (charge b a).1.Accurate (attempts ++ [a]) := by
  cases ha : a.budget? with
  | none =>
    have hsame (w : Exceeded) : a.budget? ≠ some w := by simp [ha]
    rw [charge_of_none b ha]
    refine ⟨fun w ↦ ?_, ?_⟩
    · rw [h.spent, List.countP_append, List.countP_singleton, if_neg (by simpa using hsame w),
        Nat.add_zero]
    · exact h.exceeded.trans (exists_congr fun w ↦ (overrun_concat_of_ne (hsame w)).symm)
  | some which =>
    rw [charge_of_some b ha]
    split
    · rename_i hsignal
      rw [Bool.and_eq_true, isExceeded_iff_overrun h ha] at hsignal
      have hover : ∃ w, Overrun (b.spend which).threshold (attempts ++ [a]) w := by
        rw [Budgets.threshold_spend]
        exact ⟨which, hsignal.1⟩
      exact ⟨fun w ↦ spent_concat h ha w, fun _ ↦ hover, fun _ ↦ rfl⟩
    · rename_i hsilent
      rw [Bool.and_eq_true, isExceeded_iff_overrun h ha, Option.isNone_iff_eq_none] at hsilent
      refine ⟨spent_concat h ha, ?_⟩
      rw [Budgets.exceeded_spend, Budgets.threshold_spend, h.exceeded]
      constructor
      · rintro ⟨w, hw⟩
        exact ⟨w, hw.mono [a]⟩
      · rintro ⟨w, hw⟩
        rw [← h.exceeded]
        by_cases hwhich : which = w
        · subst hwhich
          exact Option.isSome_iff_ne_none.mpr fun hnone ↦ hsilent ⟨hw, hnone⟩
        · rw [overrun_concat_of_ne (by simpa [ha] using hwhich)] at hw
          exact h.exceeded.mpr ⟨w, hw⟩

/-- **An attempt is signalled if it is the first to overrun a budget**, and the budget is the one
that it counts against. -/
theorem charge_signal_iff (h : b.Accurate attempts) (a : Attempt) (which : Exceeded) :
    (charge b a).2 = some which ↔
      (∀ w, ¬ Overrun b.threshold attempts w) ∧ a.budget? = some which ∧
        Overrun b.threshold (attempts ++ [a]) which := by
  have hlatch : b.exceeded = none ↔ ∀ w, ¬ Overrun b.threshold attempts w := by
    rw [← not_exists, ← h.exceeded, Bool.not_eq_true, Option.isSome_eq_false_iff,
      Option.isNone_iff_eq_none]
  rw [← hlatch]
  cases ha : a.budget? with
  | none => simp [charge_of_none b ha]
  | some w =>
    rw [charge_of_some b ha]
    split
    · rename_i hsignal
      rw [Bool.and_eq_true, isExceeded_iff_overrun h ha, Option.isNone_iff_eq_none] at hsignal
      constructor
      · rintro ⟨⟩
        exact ⟨hsignal.2, rfl, hsignal.1⟩
      · exact fun hw ↦ hw.2.1
    · rename_i hsilent
      rw [Bool.and_eq_true, isExceeded_iff_overrun h ha, Option.isNone_iff_eq_none] at hsilent
      constructor
      · rintro ⟨⟩
      · rintro ⟨hnone, ⟨⟩, hover⟩
        exact absurd ⟨hover, hnone⟩ hsilent

/-! ## What an event does to budgets and attempts -/

variable {p : Processor} {s : State} {e : Event}

/-- The budget that is said to be spent in the answer to an event. -/
def signals (p : Processor) (s : State) (e : Event) : List Exceeded :=
  (signalOf? (p.step s e).answer).toList

/-- **An event keeps the attempt that ends with it, or it changes neither budgets nor attempts.** -/
theorem step_result (p : Processor) (s : State) (e : Event) :
    (∃ a s' logs, p.result? s e = some a ∧ p.step s e = p.keep s' a logs ∧
      s'.budgets = s.budgets ∧ s'.history = s.history) ∨
    (p.result? s e = none ∧ (p.step s e).state.budgets = s.budgets ∧
      (p.step s e).state.history.tests = s.history.tests ∧ p.signals s e = []) := by
  have heffect := p.effect s e
  rw [signals]
  generalize p.step s e = st at heffect
  cases heffect with
  | ignored test haction hself =>
    exact .inr ⟨result?_eq_none fun _ _ _ _ ↦ .inl hself, rfl, rfl, rfl⟩
  | other haction state response logs hrunning hhistory hbudgets hresponse =>
    refine .inr ⟨result?_eq_none_of_ne fun _ _ _ h ↦ ?_, hbudgets, congrArg _ hhistory, ?_⟩
    · rw [h] at haction
      cases haction
    · cases response with
      | exceeded which => exact absurd rfl (hresponse which)
      | _ => rfl
  | rejected test haction hself hend reason logs =>
    exact .inr ⟨result?_eq_none fun _ _ _ h ↦ .inr (hend _ _ _ h), rfl, rfl, rfl⟩
  | started test haction hself running hname history hhistory logs =>
    exact .inr ⟨result?_eq_none_of_ne (by simp [haction]), rfl, hhistory, rfl⟩
  | reported test subtest report haction =>
    exact .inr ⟨result?_eq_none_of_ne (by simp [haction]), rfl, rfl, rfl⟩
  | ended test report screenshots haction hself running hrunning attempt hresult =>
    exact .inl ⟨attempt, _, _, hresult, rfl, rfl, rfl⟩
  | failed test haction running hrunning hfiled failure hfailure logs hresult =>
    exact .inr ⟨hresult, rfl, rfl, rfl⟩

theorem signalOf?_keep (p : Processor) (s : State) (a : Attempt) (logs : List Log) :
    signalOf? (p.keep s a logs).answer = (charge s.budgets a).2 := by
  unfold keep
  dsimp only
  cases (charge s.budgets a).2 <;> rfl

theorem signalOf?_eq_some_iff {answer : Except Failure Response} {which : Exceeded} :
    signalOf? answer = some which ↔ answer = .ok (.exceeded which) := by
  unfold signalOf?
  split
  · simp
  · rename_i hother
    exact iff_of_false (by simp) (hother which)

/-- The attempts after an event are those before it and the one that ends with it. -/
theorem all_step_perm (p : Processor) (s : State) (e : Event) :
    (p.step s e).state.history.all.Perm (s.history.all ++ (p.result? s e).toList) := by
  rcases step_result p s e with ⟨a, s', logs, ha, hstep, -, hhistory⟩ | ⟨ha, -, hhistory, -⟩
  · rw [ha, hstep, ← hhistory]
    exact s'.history.all_push_perm a
  · rw [ha, Option.toList_none, List.append_nil, History.all, hhistory, History.all]

theorem threshold_step (p : Processor) (s : State) (e : Event) :
    (p.step s e).state.budgets.threshold = s.budgets.threshold := by
  rcases step_result p s e with ⟨a, s', logs, -, hstep, hbudgets, -⟩ | ⟨-, hbudgets, -⟩
  · rw [hstep, ← hbudgets]
    exact threshold_charge s'.budgets a
  · rw [hbudgets]

theorem exceeded_step (p : Processor) (s : State) (e : Event) :
    (p.step s e).state.budgets.exceeded.toList = s.budgets.exceeded.toList ++ p.signals s e := by
  rcases step_result p s e with ⟨a, s', logs, -, hstep, hbudgets, -⟩ | ⟨-, hbudgets, -, hsignals⟩
  · rw [signals, hstep, signalOf?_keep, ← hbudgets]
    exact exceeded_charge s'.budgets a
  · rw [hbudgets, hsignals, List.append_nil]

theorem accurate_step (h : s.budgets.Accurate s.history.all) (e : Event) :
    (p.step s e).state.budgets.Accurate (p.step s e).state.history.all := by
  refine Budgets.Accurate.perm ?_ (p.all_step_perm s e).symm
  rcases step_result p s e with ⟨a, s', logs, ha, hstep, hbudgets, -⟩ | ⟨ha, hbudgets, -⟩
  · rw [hstep, ha]
    rw [← hbudgets] at h
    exact accurate_charge h a
  · rw [ha, hbudgets, Option.toList_none, List.append_nil]
    exact h

/-- An event signals that a budget is spent if the attempt that ends with it is the first to
overrun one. -/
theorem signals_iff (h : s.budgets.Accurate s.history.all) (e : Event) (which : Exceeded) :
    (p.step s e).answer = .ok (.exceeded which) ↔
      (∀ w, ¬ Overrun s.budgets.threshold s.history.all w) ∧
        ∃ a, p.result? s e = some a ∧ a.budget? = some which ∧
          Overrun s.budgets.threshold (p.step s e).state.history.all which := by
  rw [← signalOf?_eq_some_iff]
  have hall := p.all_step_perm s e
  rcases step_result p s e with ⟨a, s', logs, ha, hstep, hbudgets, -⟩ | ⟨ha, -, -, hsignals⟩
  · rw [ha, Option.toList_some] at hall
    rw [Overrun.perm hall, ha, hstep, signalOf?_keep, hbudgets, charge_signal_iff h]
    simp
  · have hsilent : signalOf? (p.step s e).answer = none := Option.toList_eq_nil_iff.mp hsignals
    simp [hsilent, ha]

/-! ## Runs -/

theorem threshold_run (p : Processor) (s : State) (events : List Event) :
    (p.run s events).budgets.threshold = s.budgets.threshold := by
  induction events generalizing s with
  | nil => rfl
  | cons e rest ih => rw [run_cons, ih, threshold_step]

theorem accurate_run (h : s.budgets.Accurate s.history.all) (events : List Event) :
    (p.run s events).budgets.Accurate (p.run s events).history.all := by
  induction events generalizing s with
  | nil => exact h
  | cons e rest ih => exact ih (accurate_step h e)

/-- **A run gives one signal at most**, and the latch tells which. -/
theorem exceeded_run (p : Processor) (s : State) (events : List Event) :
    (p.run s events).budgets.exceeded.toList =
      s.budgets.exceeded.toList ++ p.collect p.signals s events := by
  induction events generalizing s with
  | nil => rw [collect, List.append_nil]; rfl
  | cons e rest ih => rw [run_cons, ih, exceeded_step, collect, List.append_assoc]

theorem start_accurate (t : FileTree) (c : Config) :
    (start t c).budgets.Accurate (start t c).history.all where
  spent which := by cases which <;> rfl
  exceeded := iff_of_false (by simp [start]) (by simp [Overrun, start, History.all])

theorem threshold_start (t : FileTree) (c : Config) :
    (start t c).budgets.threshold = c.processing.threshold := by
  funext which
  cases which <;> rfl

theorem action_of_result? {a : Attempt} (h : p.result? s e = some a) :
    ∃ test report screenshots, e.action = .testEnd test report screenshots := by
  rw [result?, ending?] at h
  split at h
  · rename_i test report screenshots haction
    exact ⟨test, report, screenshots, haction⟩
  · cases h

/-- **A spent budget is signalled on time and once.** In every state that a run comes to:

* a budget is said to be spent exactly if more attempts that count against it were kept than may
  be;
* the signals of the run so far are the budget that is said to be spent, and no others;
* the next event signals a budget exactly if none was overrun, and the attempt that ends with the
  event counts against that budget and overruns it;
* expected attempts, and those that pass or are skipped, leave the budgets as they are;
* a budget that is said to be spent stays that one. -/
theorem budget_signalled_once (p : Processor) (t : FileTree) (c : Config) (events : List Event) :
    let threshold := c.processing.threshold
    let now := p.run (start t c) events
    (now.budgets.exceeded.isSome ↔ ∃ which, Overrun threshold now.history.all which) ∧
    p.collect p.signals (start t c) events = now.budgets.exceeded.toList ∧
    (∀ e which, (p.step now e).answer = .ok (.exceeded which) ↔
      (∀ w, ¬ Overrun threshold now.history.all w) ∧
        ∃ test report screenshots a, e.action = .testEnd test report screenshots ∧
          p.result? now e = some a ∧ a.budget? = some which ∧
            Overrun threshold (p.step now e).state.history.all which) ∧
    (∀ e, (∀ a ∈ p.result? now e,
        a.unexpected = false ∨ a.verdict = .pass ∨ a.verdict = .skip) →
      (p.step now e).state.budgets = now.budgets) ∧
    ∀ which later, now.budgets.exceeded = some which →
      (p.run now later).budgets.exceeded = some which := by
  intro threshold now
  have haccurate : now.budgets.Accurate now.history.all := accurate_run (start_accurate t c) events
  have hthreshold : now.budgets.threshold = threshold :=
    (threshold_run p _ events).trans (threshold_start t c)
  refine ⟨?_, ?_, fun e which ↦ ?_, fun e he ↦ ?_, fun which later h ↦ ?_⟩
  · rw [haccurate.exceeded, hthreshold]
  · exact (exceeded_run p (start t c) events).symm
  · rw [signals_iff haccurate, hthreshold]
    refine and_congr_right fun _ ↦ ⟨?_, ?_⟩
    · rintro ⟨a, ha, hcharged⟩
      obtain ⟨test, report, screenshots, haction⟩ := action_of_result? ha
      exact ⟨test, report, screenshots, a, haction, ha, hcharged⟩
    · rintro ⟨-, -, -, a, -, ha, hcharged⟩
      exact ⟨a, ha, hcharged⟩
  · rcases step_result p now e with ⟨a, s', logs, ha, hstep, hbudgets, -⟩ | ⟨-, hbudgets, -⟩
    · rw [hstep, ← hbudgets]
      exact congrArg Prod.fst (charge_of_none s'.budgets (Attempt.budget?_eq_none (he a ha)))
    · exact hbudgets
  · have hlatch := exceeded_run p now later
    rw [h, Option.toList_some] at hlatch
    cases hlater : (p.run now later).budgets.exceeded with
    | none => simp [hlater] at hlatch
    | some w =>
      rw [hlater, Option.toList_some, List.singleton_append, List.cons.injEq] at hlatch
      rw [hlatch.1]

/-- One failure is allowed. -/
def strictConfig : Config where
  processing := { failureThreshold := .upTo 0 }

/-- Three tests that fail. -/
def failingEvents : List Event :=
  ["a", "b", "c"].flatMap fun test ↦
    [{ action := .testStart ⟨test, none⟩ },
     { action := .testEnd ⟨test, none⟩ { status := "FAIL" } [] }]

theorem budget_signalled_once_sample :
    sample.collect sample.signals (start {} strictConfig) failingEvents = [.failures] ∧
      ∃ which, Overrun strictConfig.processing.threshold
        (sample.run (start {} strictConfig) failingEvents).history.all which := by
  have h := budget_signalled_once sample {} strictConfig failingEvents
  have hspent : (sample.run (start {} strictConfig) failingEvents).budgets.exceeded =
      some .failures := by decide +kernel
  refine ⟨h.2.1.trans ?_, h.1.mp ?_⟩
  · rw [hspent, Option.toList_some]
  · rw [hspent, Option.isSome_some]

end Processor

end WebTestRun
