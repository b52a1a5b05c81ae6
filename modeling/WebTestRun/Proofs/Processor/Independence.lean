import WebTestRun.Proofs.Layout.Search
import WebTestRun.Proofs.Processor.Run

/-!
# Tests do not interfere

Tests share the files, the output of crashed browsers, the counts and what is known of the run. All
the same a test sees only its own events and those that are about no test: what it has to show
after a run is what these events alone make of it.

* `Processor.Seen` — what one test sees of a state, and `Seen.next` — what an event makes of it.
* `Processor.Undisturbed` — baselines read as at the start, and artifacts are written.
* `seen_run` — what a test sees after a run follows from the events that concern it, so other tests
  can be left out, and events of several tests can come in any order.
-/

set_option autoImplicit false

namespace WebTestRun

namespace Processor

variable {p : Processor} {t : FileTree} {n : String}

/-! ## What one test sees -/

/-- What one test sees of a state: what it shares with the others, and its own attempts but for the
output of crashed browsers. -/
structure Seen where
  /-- How many suites have ended. -/
  iteration : Nat
  /-- Facts about the run. -/
  runInfo : List (String × Json)
  /-- The attempt that has not ended. -/
  running : Option Attempt.Running
  /-- The attempts that have ended. -/
  attempts : List Attempt

/-- What a test sees of a state. -/
def State.seen (s : State) (n : String) : Seen where
  iteration := s.iteration
  runInfo := s.runInfo
  running := Keyed.find? n s.running
  attempts := (s.history.attempts n).map Extraction.withoutCrashLog

namespace Seen

/-- The run is one of a runner that reports its tests itself. -/
def reportsItself (v : Seen) : Bool :=
  match Keyed.find? "used_upstream" v.runInfo with
  | some (.bool b) => b
  | _ => false

/-- The test starts, with its baseline from the files at the start of the run. -/
def start (p : Processor) (t : FileTree) (n : String) (time : Int) (v : Seen) : Seen :=
  if v.running.isSome then v
  else match p.lookup.resolve n with
    | .error _ => v
    | .ok (kind, filePath) =>
      match (if kind.hasSubtests then (p.extraction.layout.expectedText t n).map (·.1)
        else .ok none) with
      | .error _ => v
      | .ok baselineText =>
        { v with running := some {
            name := n, kind, filePath, started := time
            expected := (p.expectations.get n).verdicts
            baselineText } }

/-- A subtest of the test reports a status. -/
def report (subtest : String) (r : StatusReport) (v : Seen) : Seen :=
  match v.running with
  | none => v
  | some running =>
    match running.report subtest r.status r.message with
    | .error _ => v
    | .ok running => { v with running := some running }

/-- The test ends. -/
def finish (x : Extraction) (time : Int) (r : StatusReport) (screenshots : List Screenshot)
    (v : Seen) : Seen :=
  match v.running with
  | none => v
  | some running =>
    let ended := (running.finish r.status r.message time).toOption.bind fun f ↦
      (x.settled v.iteration f.1 screenshots).toOption
    { v with running := none, attempts := v.attempts ++ ended.toList }

/-- What an event makes of what a test sees, if it concerns the test. -/
def next (p : Processor) (t : FileTree) (n : String) (v : Seen) (e : Event) : Seen :=
  if e.action.test?.isSome && v.reportsItself then v
  else match e.action with
    | .suiteStart runInfo =>
      { v with runInfo := runInfo.foldl (fun all f ↦ Keyed.insert f.1 f.2 all) v.runInfo }
    | .testStart _ => v.start p t n e.time
    | .testStatus _ subtest r => v.report subtest r
    | .testEnd _ r screenshots => v.finish p.extraction e.time r screenshots
    | .suiteEnd => { v with iteration := v.iteration + 1 }
    | _ => v

end Seen

/-- An event concerns a test unless it is about another one. -/
def concerns (n : String) (e : Event) : Bool := e.action.test?.all fun test ↦ test.name = n

/-- The run is not disturbed from outside when it meets an event. -/
structure Undisturbed (p : Processor) (t : FileTree) (s : State) (e : Event) : Prop where
  /-- Where a baseline is searched, files read as at the start. -/
  baselines : s.reportsItself = false → ∀ test, e.action = .testStart test →
    ∀ path, p.extraction.layout.Searches test.name path →
      (s.files.readText path).toOption = (t.readText path).toOption
  /-- The artifacts of an attempt that ends are written. -/
  written : ∀ ended ∈ ending? s e,
    p.extraction.Stores s.iteration s.files ended.1 ended.2 s.crashLog

theorem Undisturbed.stores {s : State} {e : Event} (h : p.Undisturbed t s e) {test : TestId}
    {report : StatusReport} {screenshots : List Screenshot}
    (haction : e.action = .testEnd test report screenshots) (hself : s.reportsItself = false)
    {running : Attempt.Running} (hrunning : Keyed.find? test.name s.running = some running)
    {a : Attempt} {logs : List Log}
    (hfinish : running.finish report.status report.message e.time = .ok (a, logs)) :
    p.extraction.Stores s.iteration s.files a screenshots s.crashLog := by
  refine h.written (a, screenshots) ?_
  rw [ending?_of_finish haction hself hrunning, hfinish]
  rfl

/-! ## One event -/

theorem seen_keep (s : State) (a : Attempt) (logs : List Log) (hname : a.name = n) :
    (p.keep s a logs).state.seen n =
      { s.seen n with attempts := (s.seen n).attempts ++ [Extraction.withoutCrashLog a] } := by
  have hattempts : (s.history.push a).attempts n = s.history.attempts n ++ [a] := by
    rw [History.attempts_push, if_pos hname]
  simp only [State.seen, keep, hattempts, List.map_append, List.map_singleton]

/-- An event about another test changes nothing that a test sees. -/
theorem seen_step_of_other {s : State} (hfiled : s.Filed) {e : Event} {test : TestId}
    (htest : e.action.test? = some test) (hother : test.name ≠ n) :
    (p.step s e).state.seen n = s.seen n := by
  have heffect := p.effect s e
  generalize p.step s e = st at heffect
  cases heffect with
  | ignored => rfl
  | other haction =>
    rw [haction] at htest
    cases htest
  | rejected => rfl
  | started test' haction hself running hname history hhistory logs =>
    rw [haction] at htest
    cases htest
    simp only [State.seen, History.attempts, hhistory, Keyed.find?_insert, if_neg hother]
  | reported test' subtest report haction hself before after =>
    rw [haction] at htest
    cases htest
    simp only [State.seen, Keyed.find?_insert, if_neg hother]
  | ended test' report screenshots haction hself running hrunning attempt hresult hname =>
    rw [haction] at htest
    cases htest
    -- The attempt is kept under its own name, which is the one that it was running under.
    have hattempt : attempt.name ≠ n := by
      rw [hname, hfiled _ _ hrunning]
      exact hother
    simp only [State.seen, keep, Keyed.find?_erase, if_neg hother, History.attempts_push,
      if_neg hattempt]
  | failed test' haction running hrunning =>
    rw [haction] at htest
    cases htest
    simp only [State.seen, hrunning n (Ne.symm hother)]

theorem baselineFor_fst {s : State} (kind : TestKind)
    (hbaselines : ∀ path, p.extraction.layout.Searches n path →
      (s.files.readText path).toOption = (t.readText path).toOption) :
    (p.baselineFor s kind n).map (·.1) =
      if kind.hasSubtests then (p.extraction.layout.expectedText t n).map (·.1) else .ok none := by
  rw [baselineFor]
  split
  · exact Layout.expectedText_congr hbaselines
  · rfl

theorem seen_testStart {s : State} {test : TestId} (hname : test.name = n) (time : Int)
    (hbaselines : ∀ path, p.extraction.layout.Searches n path →
      (s.files.readText path).toOption = (t.readText path).toOption) :
    (p.testStart s time test).state.seen n = (s.seen n).start p t n time := by
  rw [Seen.start]
  unfold testStart
  rw [hname]
  cases hrunning : Keyed.find? n s.running with
  | some running => simp [Keyed.has, hrunning, State.seen, reject]
  | none =>
    simp only [Keyed.has, hrunning, State.seen, Option.isSome_none, Bool.false_eq_true, if_false]
    cases hlookup : p.lookup.resolve n with
    | error e => simp only [reject, hrunning]
    | ok found =>
      obtain ⟨kind, filePath⟩ := found
      dsimp only
      rw [← baselineFor_fst kind hbaselines]
      cases p.baselineFor s kind n with
      | error e => simp only [Except.map, hrunning]
      | ok found =>
        simp only [Except.map, Keyed.find?_insert, if_true]
        split <;> simp

theorem seen_testStatus {s : State} {test : TestId} (hname : test.name = n) (subtest : String)
    (r : StatusReport) :
    (testStatus s test subtest r).state.seen n = (s.seen n).report subtest r := by
  subst hname
  rw [Seen.report]
  unfold testStatus
  rw [State.seen, State.seen]
  dsimp only
  cases hrunning : Keyed.find? test.name s.running with
  | none => simp only [reject, hrunning]
  | some running =>
    dsimp only
    cases running.report subtest r.status r.message with
    | error e => simp only [reject, hrunning]
    | ok running => simp only [Keyed.find?_insert, if_true]

theorem seen_testEnd {s : State} (hfiled : s.Filed) {test : TestId} (hname : test.name = n)
    (time : Int) (r : StatusReport) (screenshots : List Screenshot)
    (hwritten : ∀ running, Keyed.find? n s.running = some running →
      ∀ a logs, running.finish r.status r.message time = .ok (a, logs) →
        p.extraction.Stores s.iteration s.files a screenshots s.crashLog) :
    (p.testEnd s time test r screenshots).state.seen n =
      (s.seen n).finish p.extraction time r screenshots := by
  have hother : Keyed.find? n (Keyed.erase n s.running) = none := by
    rw [Keyed.find?_erase, if_pos rfl]
  rw [Seen.finish]
  unfold testEnd
  rw [hname]
  cases hrunning : Keyed.find? n s.running with
  | none => simp only [State.seen, reject, hrunning]
  | some running =>
    simp only [State.seen, hrunning]
    cases hfinish : running.finish r.status r.message time with
    | error e => simp [Except.toOption, hother]
    | ok f =>
      obtain ⟨a, judged⟩ := f
      -- Only here do the other tests matter: they may have taken the crash log, or left it.
      obtain ⟨kept, w, hextract, hsettled⟩ :=
        p.extraction.extract_of_stores s.iteration (hwritten running hrunning a judged hfinish)
      have hkept : kept.name = n := by
        rw [Extraction.extract_name hextract, Attempt.Running.finish_name hfinish,
          hfiled _ _ hrunning]
      simp only [hextract, hsettled, Except.toOption, Option.bind_some, Option.toList_some]
      have hseen := seen_keep (p := p) (n := n)
        { s with running := Keyed.erase n s.running, files := w.files, crashLog := [] } kept
        (disagreement running .test r.accepted ++ judged ++ w.logs) hkept
      simp only [State.seen, hother] at hseen
      exact hseen

/-- **What an event makes of what a test sees**, if it concerns the test. -/
theorem seen_step {s : State} (hfiled : s.Filed) {e : Event} (hconcerns : concerns n e = true)
    (h : p.Undisturbed t s e) : (p.step s e).state.seen n = (s.seen n).next p t n e := by
  have hself : s.reportsItself = (s.seen n).reportsItself := rfl
  rw [Seen.next, ← hself]
  unfold step
  split
  · rfl
  · rename_i hfollowed
    have hfollowed {test : TestId} (htest : e.action.test? = some test) :
        s.reportsItself = false ∧ test.name = n := by
      rw [htest, Option.isSome_some, Bool.true_and, Bool.not_eq_true] at hfollowed
      rw [concerns, htest, Option.all_some, decide_eq_true_iff] at hconcerns
      exact ⟨hfollowed, hconcerns⟩
    split
    · rename_i runInfo haction
      rw [haction]
      rfl
    · rename_i test haction
      obtain ⟨hself, hname⟩ := hfollowed (by rw [haction]; rfl)
      rw [haction]
      exact seen_testStart hname e.time (hname ▸ h.baselines hself test haction)
    · rename_i test subtest r haction
      obtain ⟨hself, hname⟩ := hfollowed (by rw [haction]; rfl)
      rw [haction]
      exact seen_testStatus hname subtest r
    · rename_i test r screenshots haction
      obtain ⟨hself, hname⟩ := hfollowed (by rw [haction]; rfl)
      rw [haction]
      exact seen_testEnd hfiled hname e.time r screenshots
        fun running hrunning a logs hfinish ↦ h.stores haction hself (hname ▸ hrunning) hfinish
    · rename_i haction
      rw [haction]
      rfl
    · rename_i haction
      rw [haction]
      rfl
    · rename_i command data haction
      rw [haction]
      unfold processOutput
      split <;> rfl
    · rename_i haction
      rw [haction]
    · rename_i haction
      rw [haction]
    · rename_i name haction
      rw [haction]

/-- **What a test sees of a run** follows from the events that concern it. -/
theorem seen_run {s : State} (hfiled : s.Filed) {events : List Event}
    (h : p.Along (p.Undisturbed t) s events) :
    (p.run s events).seen n = (events.filter (concerns n)).foldl (Seen.next p t n) (s.seen n) := by
  induction events generalizing s with
  | nil => rfl
  | cons e rest ih =>
    rw [run_cons, ih (hfiled.step e) h.2, List.filter_cons]
    split
    · rename_i hconcerns
      rw [List.foldl_cons, seen_step hfiled hconcerns h.1]
    · rename_i hother
      cases htest : e.action.test? with
      | none => simp [concerns, htest] at hother
      | some test =>
        rw [seen_step_of_other hfiled htest (by simpa [concerns, htest] using hother)]

/-- The attempts at a test after some events, but for the output of crashed browsers. -/
def attemptsAfter (p : Processor) (s : State) (events : List Event) (n : String) : List Attempt :=
  ((p.run s events).history.attempts n).map Extraction.withoutCrashLog

/-- **Tests do not interfere.** After a run that is not disturbed from outside, the attempts at a
test are those of the events that concern it, processed alone; the output of crashed browsers is
the only thing that may go to another test. So they are the same after any other run in which the
events that concern the test are the same and in the same order. -/
theorem attempts_of_concerning (p : Processor) (t : FileTree) (c : Config) (n : String)
    (events : List Event) (hall : p.Along (p.Undisturbed t) (start t c) events)
    (hown : p.Along (p.Undisturbed t) (start t c) (events.filter (concerns n))) :
    p.attemptsAfter (start t c) events n =
        p.attemptsAfter (start t c) (events.filter (concerns n)) n ∧
      ∀ others, p.Along (p.Undisturbed t) (start t c) others →
        others.filter (concerns n) = events.filter (concerns n) →
          p.attemptsAfter (start t c) others n = p.attemptsAfter (start t c) events n := by
  have hfiled := start_filed t c
  have hseen := seen_run (n := n) hfiled hall
  constructor
  · have hself := seen_run (n := n) hfiled hown
    rw [List.filter_filter] at hself
    simp only [Bool.and_self] at hself
    exact congrArg Seen.attempts (hseen.trans hself.symm)
  · intro others hothers hsame
    have hother := seen_run (n := n) hfiled hothers
    rw [hsame] at hother
    exact congrArg Seen.attempts (hother.trans hseen.symm)

theorem attempts_of_concerning_sample :
    (sample.attemptsAfter (start {} {}) sampleEvents "external/wpt/a").length = 1 ∧
      sample.attemptsAfter (start {} {}) sampleEvents "external/wpt/a" =
        sample.attemptsAfter (start {} {}) (sampleEvents.filter (concerns "external/wpt/a"))
          "external/wpt/a" := by
  refine ⟨by decide +kernel,
    (attempts_of_concerning sample {} {} "external/wpt/a" sampleEvents ?_ ?_).1⟩
  · refine ⟨⟨fun _ _ _ _ _ ↦ rfl, ?_⟩, ⟨fun _ _ _ _ _ ↦ rfl, ?_⟩, ⟨fun _ _ h ↦ ?_, ?_⟩,
      ⟨fun _ _ h ↦ ?_, ?_⟩, ⟨fun _ _ h ↦ ?_, ?_⟩, ⟨fun _ _ h ↦ ?_, ?_⟩, trivial⟩
    all_goals first | cases h | decide +kernel
  · refine ⟨⟨fun _ _ _ _ _ ↦ rfl, ?_⟩, ⟨fun _ _ h ↦ ?_, ?_⟩, ⟨fun _ _ h ↦ ?_, ?_⟩, trivial⟩
    all_goals first | cases h | decide +kernel

end Processor

end WebTestRun
