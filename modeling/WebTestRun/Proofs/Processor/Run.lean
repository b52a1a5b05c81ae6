import WebTestRun.Processor.Step
import WebTestRun.Proofs.Artifact.Plan
import WebTestRun.Proofs.Attempt.Reports

/-!
# Runs of a processor

What an event can do is said once, by cases on why it does so. What holds of every run follows by
induction on its events.

* `Processor.run` — the state after some events, `Along` and `collect` — what holds and what is
  seen on the way.
* `Processor.Effect` — what an event can do, and `effect` that it does nothing else.
* `State.Filed` — the attempts that are running stand under the names of their tests.
* `find?_running_run` — events about other tests do nothing to an attempt.
-/

set_option autoImplicit false

namespace WebTestRun.Processor

variable {p : Processor}

/-! ## Events one after the other -/

/-- The state after some events. -/
def run (p : Processor) (s : State) (events : List Event) : State :=
  events.foldl (fun s e ↦ (p.step s e).state) s

/-- Something holds of every event and of the state that it meets. -/
def Along (p : Processor) (holds : State → Event → Prop) : State → List Event → Prop
  | _, [] => True
  | s, e :: rest => holds s e ∧ p.Along holds (p.step s e).state rest

instance (p : Processor) (holds : State → Event → Prop) [∀ s e, Decidable (holds s e)] :
    ∀ s events, Decidable (p.Along holds s events)
  | _, [] => .isTrue trivial
  | s, e :: rest => @instDecidableAnd (holds s e) (p.Along holds (p.step s e).state rest) _
      (instDecidableAlong p holds (p.step s e).state rest)

/-- What is seen of every event and of the state that it meets, in the order of the events. -/
def collect {α : Type} (p : Processor) (seen : State → Event → List α) :
    State → List Event → List α
  | _, [] => []
  | s, e :: rest => seen s e ++ p.collect seen (p.step s e).state rest

theorem run_cons (p : Processor) (s : State) (e : Event) (rest : List Event) :
    p.run s (e :: rest) = p.run (p.step s e).state rest := rfl

theorem run_append (p : Processor) (s : State) (events more : List Event) :
    p.run s (events ++ more) = p.run (p.run s events) more := List.foldl_append

theorem collect_append {α : Type} (p : Processor) (seen : State → Event → List α) (s : State)
    (events more : List Event) : p.collect seen s (events ++ more) =
      p.collect seen s events ++ p.collect seen (p.run s events) more := by
  induction events generalizing s with
  | nil => rfl
  | cons e rest ih => rw [List.cons_append, collect, collect, ih, run_cons, List.append_assoc]

theorem along_append {holds : State → Event → Prop} {s : State} {events more : List Event} :
    p.Along holds s (events ++ more) ↔
      p.Along holds s events ∧ p.Along holds (p.run s events) more := by
  induction events generalizing s with
  | nil => exact (and_iff_right trivial).symm
  | cons e rest ih => rw [List.cons_append, Along, Along, ih, and_assoc, run_cons]

theorem along_mono {holds also : State → Event → Prop} (halso : ∀ s e, holds s e → also s e)
    {s : State} {events : List Event} (h : p.Along holds s events) : p.Along also s events := by
  induction events generalizing s with
  | nil => trivial
  | cons e rest ih => exact ⟨halso s e h.1, ih h.2⟩

/-! ## What an event can do -/

/-- Whether an answer says that the event does not fit the state. -/
def rejects : Except Failure Response → Bool
  | .error (.rejected _) => true
  | .error (.fatal _) | .error (.unnameable _) | .ok _ => false

theorem rejects_error_eq_false {failure : Failure} (h : ∀ reason, failure ≠ .rejected reason) :
    rejects (.error failure) = false := by
  cases failure with
  | rejected reason => exact absurd rfl (h reason)
  | fatal status => rfl
  | unnameable test => rfl

/-- The attempt that ends with an event, before its artifacts are written, and its screenshots. -/
def ending? (s : State) (e : Event) : Option (Attempt × List Screenshot) :=
  match e.action with
  | .testEnd test report screenshots =>
    if s.reportsItself then none
    else (Keyed.find? test.name s.running).bind fun running ↦
      (running.finish report.status report.message e.time).toOption.map fun ended ↦
        (ended.1, screenshots)
  | _ => none

/-- The attempt that ends with an event, with its artifacts. -/
def result? (p : Processor) (s : State) (e : Event) : Option Attempt :=
  (ending? s e).bind fun ended ↦
    (p.extraction.extract s.files s.iteration ended.1 ended.2 s.crashLog).toOption.map (·.1)

/-- The end of a followed attempt in flight. -/
theorem ending?_of_finish {s : State} {e : Event} {test : TestId} {report : StatusReport}
    {screenshots : List Screenshot} (haction : e.action = .testEnd test report screenshots)
    (hself : s.reportsItself = false) {running : Attempt.Running}
    (hrunning : Keyed.find? test.name s.running = some running) :
    ending? s e = (running.finish report.status report.message e.time).toOption.map fun ended ↦
      (ended.1, screenshots) := by
  simp only [ending?, haction, hself, Bool.false_eq_true, if_false, hrunning, Option.bind_some]

/-- No attempt ends unless its end is followed and it is in flight. -/
theorem ending?_eq_none {s : State} {e : Event}
    (h : ∀ test report screenshots, e.action = .testEnd test report screenshots →
      s.reportsItself = true ∨ Keyed.find? test.name s.running = none) : ending? s e = none := by
  rw [ending?]
  split
  · rename_i test report screenshots haction
    rcases h test report screenshots haction with hself | hrunning
    · exact if_pos hself
    · rw [hrunning, Option.bind_none, ite_self]
  · rfl

theorem result?_eq_none {s : State} {e : Event}
    (h : ∀ test report screenshots, e.action = .testEnd test report screenshots →
      s.reportsItself = true ∨ Keyed.find? test.name s.running = none) : p.result? s e = none := by
  rw [result?, ending?_eq_none h, Option.bind_none]

/-- No attempt ends with an event that is no end of a test. -/
theorem result?_eq_none_of_ne {s : State} {e : Event}
    (h : ∀ test report screenshots, e.action ≠ .testEnd test report screenshots) :
    p.result? s e = none :=
  result?_eq_none fun test report screenshots haction ↦ absurd haction (h test report screenshots)

/-- What an event can do. -/
inductive Effect (p : Processor) (s : State) (e : Event) : Step → Prop where
  /-- The runner reports its tests itself. -/
  | ignored (test : TestId) (haction : e.action.test? = some test)
      (hself : s.reportsItself = true) : Effect p s e { state := s }
  /-- The event is about no test. -/
  | other (haction : e.action.test? = none) (state : State) (response : Response) (logs : List Log)
      (hrunning : state.running = s.running) (hhistory : state.history = s.history)
      (hbudgets : state.budgets = s.budgets) (hresponse : ∀ which, response ≠ .exceeded which) :
      Effect p s e { state, answer := .ok response, logs }
  /-- The event does not fit the state. -/
  | rejected (test : TestId) (haction : e.action.test? = some test)
      (hself : s.reportsItself = false)
      (hend : ∀ test report screenshots, e.action = .testEnd test report screenshots →
        Keyed.find? test.name s.running = none)
      (reason : Rejection) (logs : List Log) : Effect p s e (reject s reason logs)
  /-- An attempt starts. -/
  | started (test : TestId) (haction : e.action = .testStart test)
      (hself : s.reportsItself = false) (running : Attempt.Running)
      (hname : running.name = test.name) (history : History)
      (hhistory : history.tests = s.history.tests) (logs : List Log) :
      Effect p s e {
        state := { s with history, running := Keyed.insert test.name running s.running }
        logs }
  /-- A subtest of an attempt reports. -/
  | reported (test : TestId) (subtest : String) (report : StatusReport)
      (haction : e.action = .testStatus test subtest report) (hself : s.reportsItself = false)
      (before after : Attempt.Running) (hrunning : Keyed.find? test.name s.running = some before)
      (hname : after.name = before.name) (logs : List Log) :
      Effect p s e {
        state := { s with running := Keyed.insert test.name after s.running }
        logs }
  /-- An attempt ends. -/
  | ended (test : TestId) (report : StatusReport) (screenshots : List Screenshot)
      (haction : e.action = .testEnd test report screenshots) (hself : s.reportsItself = false)
      (running : Attempt.Running) (hrunning : Keyed.find? test.name s.running = some running)
      (attempt : Attempt) (hresult : p.result? s e = some attempt)
      (hname : attempt.name = running.name) (files : FileTree) (logs : List Log) :
      Effect p s e (p.keep
        { s with running := Keyed.erase test.name s.running, files, crashLog := [] } attempt logs)
  /-- The run fails. -/
  | failed (test : TestId) (haction : e.action.test? = some test)
      (running : List (String × Attempt.Running))
      (hrunning : ∀ n, n ≠ test.name → Keyed.find? n running = Keyed.find? n s.running)
      (hfiled : ∀ n r, Keyed.find? n running = some r → Keyed.find? n s.running = some r)
      (failure : Failure) (hfailure : ∀ reason, failure ≠ .rejected reason) (logs : List Log)
      (hresult : p.result? s e = none) :
      Effect p s e { state := { s with running }, answer := .error failure, logs }

/-- An event that is no end of a test and does not fit. -/
theorem Effect.rejected_of_ne {s : State} {e : Event} {test : TestId}
    (haction : e.action.test? = some test) (hself : s.reportsItself = false)
    (hne : ∀ test report screenshots, e.action ≠ .testEnd test report screenshots)
    (reason : Rejection) (logs : List Log) : Effect p s e (reject s reason logs) :=
  .rejected test haction hself
    (fun test report screenshots h ↦ absurd h (hne test report screenshots)) reason logs

theorem effect_testStart (s : State) (e : Event) (test : TestId)
    (haction : e.action = .testStart test) (hself : s.reportsItself = false) :
    Effect p s e (p.testStart s e.time test) := by
  have htest : e.action.test? = some test := by rw [haction, Event.Action.test?]
  have hne : ∀ test report screenshots, e.action ≠ .testEnd test report screenshots := by
    simp [haction]
  unfold testStart
  dsimp only
  split
  · exact .rejected_of_ne htest hself hne _ _
  · split
    · exact .rejected_of_ne htest hself hne _ _
    · split
      · exact .failed test htest s.running (fun _ _ ↦ rfl) (fun _ _ h ↦ h) _ (by simp) _
          (result?_eq_none_of_ne hne)
      · refine .started test haction hself _ rfl _ ?_ _
        split
        · unfold History.markSlow
          split <;> rfl
        · rfl

theorem effect_testStatus (s : State) (e : Event) (test : TestId) (subtest : String)
    (report : StatusReport) (haction : e.action = .testStatus test subtest report)
    (hself : s.reportsItself = false) : Effect p s e (testStatus s test subtest report) := by
  have htest : e.action.test? = some test := by rw [haction, Event.Action.test?]
  have hne : ∀ test report screenshots, e.action ≠ .testEnd test report screenshots := by
    simp [haction]
  unfold testStatus
  dsimp only
  split
  · exact .rejected_of_ne htest hself hne _ _
  · rename_i hrunning
    split
    · exact .rejected_of_ne htest hself hne _ _
    · rename_i hreport
      have hname := Attempt.Running.report_name hreport
      exact .reported test subtest report haction hself _ _ hrunning hname _

theorem effect_testEnd (s : State) (e : Event) (test : TestId) (report : StatusReport)
    (screenshots : List Screenshot) (haction : e.action = .testEnd test report screenshots)
    (hself : s.reportsItself = false) :
    Effect p s e (p.testEnd s e.time test report screenshots) := by
  have htest : e.action.test? = some test := by rw [haction, Event.Action.test?]
  unfold testEnd
  dsimp only
  split
  · rename_i hrunning
    refine .rejected test htest hself (fun test' report' screenshots' h ↦ ?_) _ _
    rw [haction] at h
    cases h
    exact hrunning
  · rename_i running hrunning
    have hother (n : String) (hn : n ≠ test.name) :
        Keyed.find? n (Keyed.erase test.name s.running) = Keyed.find? n s.running := by
      rw [Keyed.find?_erase, if_neg (Ne.symm hn)]
    have hfiled (n : String) (r : Attempt.Running)
        (h : Keyed.find? n (Keyed.erase test.name s.running) = some r) :
        Keyed.find? n s.running = some r := by
      rw [Keyed.find?_erase] at h
      split at h
      · cases h
      · exact h
    have hending := ending?_of_finish haction hself hrunning
    split
    · rename_i hfinish
      refine .failed test htest _ hother hfiled _ (by simp) _ ?_
      rw [result?, hending, hfinish]
      rfl
    · rename_i attempt judged hfinish
      split
      · rename_i hextract
        refine .failed test htest _ hother hfiled _ (by simp) _ ?_
        simp only [result?, hending, hfinish, Except.toOption, Option.map_some, Option.bind_some,
          hextract, Option.map_none]
      · rename_i kept w hextract
        refine .ended test report screenshots haction hself running hrunning kept ?_ ?_ w.files _
        · simp only [result?, hending, hfinish, Except.toOption, Option.map_some, Option.bind_some,
            hextract]
        · exact (Extraction.extract_name hextract).trans (Attempt.Running.finish_name hfinish)

/-- **An event does nothing else.** -/
theorem effect (p : Processor) (s : State) (e : Event) : Effect p s e (p.step s e) := by
  -- The cases are those of `step`: events that are not followed, then one for each action.
  unfold step
  split
  · rename_i h
    rw [Bool.and_eq_true, Option.isSome_iff_exists] at h
    obtain ⟨⟨test, htest⟩, hself⟩ := h
    exact .ignored test htest hself
  · rename_i hfollowed
    have hself {test : TestId} (haction : e.action.test? = some test) :
        s.reportsItself = false := by
      rw [haction, Option.isSome_some, Bool.true_and, Bool.not_eq_true] at hfollowed
      exact hfollowed
    split
    · rename_i info haction
      exact .other (by rw [haction]; rfl) _ _ _ rfl rfl rfl (by simp)
    · rename_i test haction
      exact effect_testStart s e test haction (hself (by rw [haction]; rfl))
    · rename_i test subtest report haction
      exact effect_testStatus s e test subtest report haction (hself (by rw [haction]; rfl))
    · rename_i test report screenshots haction
      exact effect_testEnd s e test report screenshots haction (hself (by rw [haction]; rfl))
    · rename_i haction
      exact .other (by rw [haction]; rfl) _ _ _ rfl rfl rfl (by simp)
    · rename_i haction
      exact .other (by rw [haction]; rfl) _ _ _ rfl rfl rfl (by simp)
    · rename_i command data haction
      unfold processOutput
      split
      · exact .other (by rw [haction]; rfl) _ _ _ rfl rfl rfl (by simp)
      · exact .other (by rw [haction]; rfl) _ _ _ rfl rfl rfl (by simp)
    · rename_i haction
      exact .other (by rw [haction]; rfl) _ _ _ rfl rfl rfl (by simp)
    · rename_i haction
      exact .other (by rw [haction]; rfl) _ _ _ rfl rfl rfl (by simp)
    · rename_i name haction
      exact .other (by rw [haction]; rfl) _ _ _ rfl rfl rfl (by simp)

/-! ## Attempts under the names of their tests -/

/-- Every attempt that is running stands under the name of its test. -/
def State.Filed (s : State) : Prop :=
  ∀ n r, Keyed.find? n s.running = some r → r.name = n

theorem State.Filed.insert {s : State} (h : s.Filed) {n : String} {r : Attempt.Running}
    (hname : r.name = n) :
    ∀ m q, Keyed.find? m (Keyed.insert n r s.running) = some q → q.name = m := by
  intro m q hq
  rw [Keyed.find?_insert] at hq
  split at hq
  · rename_i hnm
    rw [← Option.some.inj hq, hname, hnm]
  · exact h m q hq

theorem State.Filed.step {s : State} (h : s.Filed) (e : Event) : (p.step s e).state.Filed := by
  have heffect := p.effect s e
  generalize p.step s e = st at heffect
  cases heffect with
  | ignored => exact h
  | other haction state response logs hrunning =>
    intro n r hr
    rw [hrunning] at hr
    exact h n r hr
  | rejected => exact h
  | started test haction hself running hname => exact h.insert hname
  | reported test subtest report haction hself before after hrunning hname =>
    exact h.insert (hname.trans (h _ _ hrunning))
  | ended test =>
    intro n r hr
    have hr : Keyed.find? n (Keyed.erase test.name s.running) = some r := hr
    rw [Keyed.find?_erase] at hr
    split at hr
    · cases hr
    · exact h n r hr
  | failed test haction running hrunning hfiled => exact fun n r hr ↦ h n r (hfiled n r hr)

theorem State.Filed.run {s : State} (h : s.Filed) (events : List Event) :
    (p.run s events).Filed := by
  induction events generalizing s with
  | nil => exact h
  | cons e rest ih => exact ih (h.step e)

theorem start_filed (t : FileTree) (c : Config) : (start t c).Filed := by
  intro n r h
  cases h

/-! ## Attempts and events about other tests -/

/-- An event about another test does nothing to an attempt. -/
theorem find?_running_step (p : Processor) (s : State) {e : Event} {n : String}
    (h : ∀ test, e.action.test? = some test → test.name ≠ n) :
    Keyed.find? n (p.step s e).state.running = Keyed.find? n s.running := by
  have heffect := p.effect s e
  generalize p.step s e = st at heffect
  cases heffect with
  | ignored => rfl
  | other haction state response logs hrunning => rw [hrunning]
  | rejected => rfl
  | started test haction =>
    show Keyed.find? n (Keyed.insert test.name _ s.running) = _
    rw [Keyed.find?_insert, if_neg (h test (by rw [haction]; rfl))]
  | reported test subtest report haction =>
    show Keyed.find? n (Keyed.insert test.name _ s.running) = _
    rw [Keyed.find?_insert, if_neg (h test (by rw [haction]; rfl))]
  | ended test report screenshots haction =>
    show Keyed.find? n (Keyed.erase test.name s.running) = _
    rw [Keyed.find?_erase, if_neg (h test (by rw [haction]; rfl))]
  | failed test haction running hrunning => exact hrunning n (Ne.symm (h test haction))

/-- **Events about other tests do nothing to an attempt.** -/
theorem find?_running_run (p : Processor) (s : State) {events : List Event} {n : String}
    (h : ∀ e ∈ events, ∀ test, e.action.test? = some test → test.name ≠ n) :
    Keyed.find? n (p.run s events).running = Keyed.find? n s.running := by
  induction events generalizing s with
  | nil => rfl
  | cons e rest ih =>
    rw [run_cons, ih _ fun e' he' ↦ h e' (List.mem_cons_of_mem e he'),
      find?_running_step p s (h e List.mem_cons_self)]

/-! ## A small run -/

/-- A processor that knows of no manifest, baseline or expectation, of tests without subtests. -/
def sample : Processor where
  extraction := { store := ⟨"out"⟩, layout := ⟨"tests", []⟩, resets := false }
  lookup := ⟨none, none, .reftest⟩
  expectations := {}
  namePrefix := ""
  crashLogExecutables := ["chromedriver"]
  shard := none
  flagName := none

/-- The same of tests with subtests. -/
def subtestSample : Processor := { sample with lookup := ⟨none, none, .testharness⟩ }

/-- Two tests that overlap, and a line from a browser that crashed. -/
def sampleEvents : List Event :=
  [{ action := .testStart ⟨"a", none⟩ },
   { action := .testStart ⟨"b", none⟩ },
   { action := .processOutput "chromedriver" (.string "gone") },
   { time := 5, action := .testEnd ⟨"b", none⟩ { status := "PASS" } [] },
   { time := 6, action := .testEnd ⟨"b", none⟩ { status := "PASS" } [] },
   { time := 7, action := .testEnd ⟨"a", none⟩ { status := "CRASH", message := some "m" } [] }]

end WebTestRun.Processor
