import WebTestRun.Proofs.Artifact.Renamed
import WebTestRun.Proofs.Expectation.Declared
import WebTestRun.Proofs.Processor.Independence
import WebTestRun.Proofs.Processor.Rejection

/-!
# Tests under a suite

The name of a test is taken apart in four places: where the test is looked up, where its
expectations and its baseline are, and where its screenshots are told from those of other pages. A
test under a suite about which nothing is said alone is in each of them as the test itself. So its
events do the same, whether they name the suite or not.

* `Event.under` — an event that names a suite.
* `Processor.FallsBack` — one test is as another in all four places; `fallsBack_of_suite`.
* `Processor.Twin` — the two tests have the same to show in two states; `Twin.step`, `Twin.consume`
  — and still have after the same events.
* `consume_under` — a test under a suite behaves as the test itself.
-/

set_option autoImplicit false

namespace WebTestRun

/-! ## Events under a suite -/

/-- The test under a suite. -/
def TestId.under (suite : String) (test : TestId) : TestId := { test with suite := some suite }

/-- The action with the test that it is about under a suite. -/
def Event.Action.under (suite : String) : Event.Action → Event.Action
  | .testStart test => .testStart (test.under suite)
  | .testStatus test subtest report => .testStatus (test.under suite) subtest report
  | .testEnd test report screenshots => .testEnd (test.under suite) report screenshots
  | action => action

/-- The event with the test that it is about under a suite. -/
def Event.under (suite : String) (e : Event) : Event := { e with action := e.action.under suite }

theorem Event.Action.test?_under (suite : String) (action : Event.Action) :
    (action.under suite).test? = action.test?.map (TestId.under suite) := by
  cases action <;> rfl

/-! ## One test is as another -/

namespace Layout

/-- The baseline of a test under a suite that has none of its own is that of the test itself. -/
theorem expectedText_of_suite {l : Layout} {t : FileTree} {test suite base : String}
    (hsplit : TestName.splitVirtual test = (some suite, base))
    (hbase : TestName.splitVirtual base = (none, base))
    (hnameable : TestName.Nameable base → TestName.Nameable test)
    (hown : ∀ name, baselineName test = .ok name → ∀ dir ∈ l.searchDirs,
      (t.readText (Path.join dir name)).toOption = none) :
    ((l.expectedText t test).map (·.1)).toOption =
      ((l.expectedText t base).map (·.1)).toOption := by
  have hrest : (l.firstBaseline t test [base]).map (·.1) =
      (l.firstBaseline t base [base]).map (·.1) := firstBaseline_congr fun _ _ _ _ _ _ ↦ rfl
  rw [expectedText, expectedText, candidates, candidates, hsplit, hbase, ← hrest]
  dsimp only
  rw [firstBaseline]
  cases hname : baselineName test with
  | error e =>
    -- Then the baseline of the test itself has no name either.
    obtain ⟨-, hnot⟩ := TestName.outputPath_eq_error_iff.mp hname
    have herror : baselineName base = .error ⟨base⟩ :=
      TestName.outputPath_eq_error_iff.mpr ⟨rfl, fun h ↦ hnot (hnameable h)⟩
    rw [firstBaseline, herror]
    rfl
  | ok name =>
    have hfirst :
        (firstReadable t test (l.searchDirs.map fun dir ↦ Path.join dir name)).1 = none := by
      rw [firstReadable_eq_findSome?, List.findSome?_map, List.findSome?_eq_none_iff]
      exact hown name hname
    simp only [bind, Except.bind, hfirst, Option.isSome_none, Bool.false_eq_true, if_false]
    cases l.firstBaseline t test [base] <;> rfl

end Layout

namespace Processor

variable {p : Processor} {t : FileTree} {name base : String} {s s' : State}

/-- Wherever a processor takes names apart, one test is as another. -/
structure FallsBack (p : Processor) (t : FileTree) (name base : String) : Prop where
  /-- Both are of one kind and in one file, or neither is in the manifest. -/
  resolve : p.lookup.resolve name = p.lookup.resolve base
  /-- The same is expected of both. -/
  expected : p.expectations.get name = p.expectations.get base
  /-- Both have one baseline. -/
  baseline : ((p.extraction.layout.expectedText t name).map (·.1)).toOption =
    ((p.extraction.layout.expectedText t base).map (·.1)).toOption
  /-- Both have one URL. -/
  url : Extraction.urlOf name = Extraction.urlOf base

/-- **A test under a suite is as the test itself** if no expectation is about it alone, and it has
no baseline of its own. -/
theorem fallsBack_of_suite {suite test : String} (hsuite : suite ≠ "")
    (hslash : '/' ∉ suite.toList)
    (hlook : p.expectations.look? (TestName.full test (some suite)) = none)
    (hown : ∀ name, Layout.baselineName (TestName.full test (some suite)) = .ok name →
      ∀ dir ∈ p.extraction.layout.searchDirs, (t.readText (Path.join dir name)).toOption = none) :
    p.FallsBack t (TestName.full test (some suite)) (TestName.base test) := by
  have hfull := TestName.splitVirtual_full hsuite hslash test
  have hbase := TestName.splitVirtual_base test
  refine ⟨?_, ?_, ?_, ?_⟩
  · delta Lookup.resolve
    rw [hfull, hbase]
  · rw [Expectations.get, Expectations.get, Expectations.declared?_of_suite hlook hfull,
      Expectations.declared?_of_base hbase]
  · exact Layout.expectedText_of_suite hfull hbase (TestName.nameable_full hsuite hslash) hown
  · rw [Extraction.urlOf, Extraction.urlOf, hfull, hbase]

theorem FallsBack.baselineFor (h : p.FallsBack t name base) (kind : TestKind)
    (hbaselines : ∀ path, p.extraction.layout.Searches base path →
      (s.files.readText path).toOption = (t.readText path).toOption)
    (hbaselines' : ∀ path, p.extraction.layout.Searches name path →
      (s'.files.readText path).toOption = (t.readText path).toOption) :
    ((p.baselineFor s' kind name).map (·.1)).toOption =
      ((p.baselineFor s kind base).map (·.1)).toOption := by
  rw [baselineFor_fst kind hbaselines, baselineFor_fst kind hbaselines']
  split
  · exact h.baseline
  · rfl

/-! ## Two states -/

/-- In a second state, a test of another name has the same to show as a test has in the first. -/
structure Twin (name base : String) (s s' : State) : Prop where
  /-- As many suites have ended. -/
  iteration : s'.iteration = s.iteration
  /-- The same is known of the run. -/
  runInfo : s'.runInfo = s.runInfo
  /-- Crashed browsers wrote the same. -/
  crashLog : s'.crashLog = s.crashLog
  /-- The same attempt has not ended. -/
  running : Keyed.find? name s'.running = (Keyed.find? base s.running).map (·.named name)
  /-- The attempts that have ended are alike. -/
  attempts : List.Forall₂ (Attempt.Alike name) (s.history.attempts base) (s'.history.attempts name)
  /-- Both are known to be slow, or neither is. -/
  slow : s'.history.isSlow name = s.history.isSlow base

/-- What two events do has the same to show, both are rejected or neither is, and both end the
stream or neither does. -/
structure Paired (name base : String) (now now' : Step) : Prop where
  /-- The states have the same to show. -/
  state : Twin name base now.state now'.state
  /-- Both events are rejected, or neither is. -/
  rejects : Processor.rejects now'.answer = Processor.rejects now.answer
  /-- Both events end the stream, or neither does. -/
  ends : (endOf? now'.answer).isSome = (endOf? now.answer).isSome

theorem Twin.reportsItself (h : Twin name base s s') : s'.reportsItself = s.reportsItself := by
  rw [State.reportsItself, h.runInfo, ← State.reportsItself]

theorem Twin.insert (h : Twin name base s s') (r : Attempt.Running) :
    Twin name base { s with running := Keyed.insert base r s.running }
      { s' with running := Keyed.insert name (r.named name) s'.running } :=
  { h with running := by simp [Keyed.find?_insert] }

theorem Twin.erase (h : Twin name base s s') :
    Twin name base { s with running := Keyed.erase base s.running }
      { s' with running := Keyed.erase name s'.running } :=
  { h with running := by simp [Keyed.find?_erase] }

theorem isSlow_markSlow (h : History) (test : String) : (h.markSlow test).isSlow test = true := by
  rw [History.isSlow, List.contains_iff_mem, History.markSlow]
  split
  · assumption
  · exact List.mem_cons_self

theorem Twin.markSlow (h : Twin name base s s') (slow : Bool) :
    Twin name base
      { s with history := if slow then s.history.markSlow base else s.history }
      { s' with history := if slow then s'.history.markSlow name else s'.history } := by
  cases slow with
  | false => exact h
  | true =>
    refine { h with attempts := ?_, slow := ?_ }
    · simpa using h.attempts
    · exact (isSlow_markSlow _ _).trans (isSlow_markSlow _ _).symm

/-! ## One event -/

theorem paired_testStart (h : Twin name base s s') (hfalls : p.FallsBack t name base)
    {test test' : TestId} (hname : test.name = base) (hname' : test'.name = name) (time : Int)
    (hbaselines : ∀ path, p.extraction.layout.Searches base path →
      (s.files.readText path).toOption = (t.readText path).toOption)
    (hbaselines' : ∀ path, p.extraction.layout.Searches name path →
      (s'.files.readText path).toOption = (t.readText path).toOption) :
    Paired name base (p.testStart s time test) (p.testStart s' time test') := by
  have hhas : Keyed.has name s'.running = Keyed.has base s.running := by
    rw [Keyed.has, h.running, Option.isSome_map, ← Keyed.has]
  unfold testStart
  dsimp only
  rw [hname, hname', hhas, hfalls.resolve, hfalls.expected]
  split
  · exact ⟨h, rfl, rfl⟩
  · split
    · exact ⟨h, rfl, rfl⟩
    · rename_i kind filePath hresolve
      rcases Answer.error_or_ok_of_toOption_eq (hfalls.baselineFor kind hbaselines hbaselines')
        with ⟨e', e, hfound', hfound⟩ | ⟨found', found, hfound', hfound, htext⟩
      · rw [hfound, hfound']
        exact ⟨h, rfl, rfl⟩
      · rw [hfound, hfound']
        dsimp only
        rw [htext]
        exact ⟨(h.markSlow _).insert _, rfl, rfl⟩

theorem paired_testStatus (h : Twin name base s s') {test test' : TestId}
    (hname : test.name = base) (hname' : test'.name = name) (subtest : String)
    (report : StatusReport) :
    Paired name base (testStatus s test subtest report) (testStatus s' test' subtest report) := by
  unfold testStatus
  dsimp only
  rw [hname, hname', h.running]
  cases Keyed.find? base s.running with
  | none => exact ⟨h, rfl, rfl⟩
  | some running =>
    dsimp only [Option.map_some]
    rw [Attempt.Running.report_named]
    cases running.report subtest report.status report.message with
    | error e => exact ⟨h, rfl, rfl⟩
    | ok after => exact ⟨h.insert after, rfl, rfl⟩

/-- Attempts that are alike are kept, and the stream goes on. -/
theorem paired_keep (h : Twin name base s s') {a a' : Attempt} (hname : a.name = base)
    (halike : a.Alike name a') (logs logs' : List Log) :
    Paired name base (p.keep s a logs) (p.keep s' a' logs') := by
  have hgoes (s : State) (a : Attempt) (logs : List Log) :
      endOf? (p.keep s a logs).answer = none := by
    unfold keep
    dsimp only
    split <;> rfl
  have hname' : a'.name = name := by rw [halike.same]
  refine ⟨{ h with attempts := ?_ }, rfl, by rw [hgoes, hgoes]⟩
  show List.Forall₂ _ ((s.history.push a).attempts base) ((s'.history.push a').attempts name)
  rw [History.attempts_push, History.attempts_push, if_pos hname, if_pos hname']
  exact List.rel_append h.attempts (.cons halike .nil)

theorem paired_testEnd (h : Twin name base s s') (hfiled : s.Filed)
    (hfalls : p.FallsBack t name base) {test test' : TestId} (hname : test.name = base)
    (hname' : test'.name = name) (time : Int) (report : StatusReport)
    (screenshots : List Screenshot)
    (hwritten : ∀ running, Keyed.find? base s.running = some running →
      ∀ a logs, running.finish report.status report.message time = .ok (a, logs) →
        p.extraction.Stores s.iteration s.files a screenshots s.crashLog)
    (hwritten' : ∀ running, Keyed.find? name s'.running = some running →
      ∀ a logs, running.finish report.status report.message time = .ok (a, logs) →
        p.extraction.Stores s'.iteration s'.files a screenshots s'.crashLog) :
    Paired name base (p.testEnd s time test report screenshots)
      (p.testEnd s' time test' report screenshots) := by
  unfold testEnd
  dsimp only
  rw [hname, hname']
  cases hrunning : Keyed.find? base s.running with
  | none =>
    rw [h.running, hrunning]
    exact ⟨h, rfl, rfl⟩
  | some running =>
    have hrunning' : Keyed.find? name s'.running = some (running.named name) := by
      rw [h.running, hrunning, Option.map_some]
    rw [hrunning']
    have hfinish := running.finish_named name report.status report.message time
    dsimp only
    rcases Answer.error_or_ok_of_toOption_eq (congrArg Except.toOption hfinish)
      with ⟨e', e, hended', hended⟩ | ⟨⟨a', judged'⟩, ⟨a, judged⟩, hended', hended, hname'⟩
    · rw [hended, hended']
      exact ⟨h.erase, rfl, rfl⟩
    · obtain rfl : a' = a.named name := hname'
      have ha : a.name = base :=
        (Attempt.Running.finish_name hended).trans (hfiled _ _ hrunning)
      have hstores := hwritten running hrunning a judged hended
      have hstores' := hwritten' _ hrunning' _ judged' hended'
      rw [h.iteration, h.crashLog] at hstores'
      obtain ⟨kept, w, kept', w', hextract, hextract', halike⟩ :=
        p.extraction.extract_named s.iteration (ha ▸ hfalls.url) hstores hstores'
      rw [← h.iteration, ← h.crashLog] at hextract'
      rw [hended, hended']
      dsimp only
      rw [hextract, hextract']
      have hkept : kept.name = base := (Extraction.extract_name hextract).trans ha
      have hgone : Twin name base
          { s with running := Keyed.erase base s.running, files := w.files, crashLog := [] }
          { s' with running := Keyed.erase name s'.running, files := w'.files, crashLog := [] } :=
        { h.erase with crashLog := rfl }
      exact paired_keep hgone hkept halike _ _

/-- **The same event does the same to a test under another name.** -/
theorem Twin.step (h : Twin name base s s') (hfiled : s.Filed) (hfalls : p.FallsBack t name base)
    {suite : String} {e : Event}
    (htest : ∀ test ∈ e.action.test?, test.name = base ∧ (test.under suite).name = name)
    (hbase : p.Undisturbed t s e) (hunder : p.Undisturbed t s' (e.under suite)) :
    Paired name base (p.step s e) (p.step s' (e.under suite)) := by
  have hisSome : (e.under suite).action.test?.isSome = e.action.test?.isSome := by
    rw [Event.under, Event.Action.test?_under, Option.isSome_map]
  rw [Processor.step, Processor.step, hisSome, h.reportsItself]
  split
  · exact ⟨h, rfl, rfl⟩
  · rename_i hfollowed
    have hfollowed {test : TestId} (hsome : e.action.test? = some test) :
        s.reportsItself = false ∧ test.name = base ∧ (test.under suite).name = name := by
      rw [hsome, Option.isSome_some, Bool.true_and, Bool.not_eq_true] at hfollowed
      exact ⟨hfollowed, htest test hsome⟩
    have haction' {action : Event.Action} (haction : e.action = action) :
        (e.under suite).action = action.under suite := by
      rw [Event.under, haction]
    cases haction : e.action with
    | testStart test =>
      obtain ⟨hself, hname, hname'⟩ := hfollowed (by rw [haction]; rfl)
      rw [haction' haction]
      exact paired_testStart h hfalls hname hname' e.time
        (hname ▸ hbase.baselines hself test haction)
        (hname' ▸ hunder.baselines (h.reportsItself.trans hself) _ (haction' haction))
    | testStatus test subtest report =>
      obtain ⟨hself, hname, hname'⟩ := hfollowed (by rw [haction]; rfl)
      rw [haction' haction]
      exact paired_testStatus h hname hname' subtest report
    | testEnd test report screenshots =>
      obtain ⟨hself, hname, hname'⟩ := hfollowed (by rw [haction]; rfl)
      rw [haction' haction]
      exact paired_testEnd h hfiled hfalls hname hname' e.time report screenshots
        (fun running hrunning a logs hfinish ↦
          hbase.stores haction hself (hname ▸ hrunning) hfinish)
        (fun running hrunning a logs hfinish ↦ hunder.stores (haction' haction)
          (h.reportsItself.trans hself) (hname' ▸ hrunning) hfinish)
    | suiteStart runInfo =>
      rw [haction' haction, h.runInfo]
      exact ⟨{ h with runInfo := rfl }, rfl, rfl⟩
    | suiteEnd =>
      rw [haction' haction, h.iteration]
      exact ⟨{ h with iteration := rfl }, rfl, rfl⟩
    | processOutput command data =>
      rw [haction' haction]
      dsimp only [Event.Action.under, processOutput]
      split
      · exact ⟨{ h with crashLog := by rw [h.crashLog] }, rfl, rfl⟩
      · exact ⟨h, rfl, rfl⟩
    | shutdown =>
      rw [haction' haction]
      exact ⟨h, rfl, rfl⟩
    | log =>
      rw [haction' haction]
      exact ⟨h, rfl, rfl⟩
    | addSubsuite =>
      rw [haction' haction]
      exact ⟨h, rfl, rfl⟩
    | unknown _ =>
      rw [haction' haction]
      exact ⟨h, rfl, rfl⟩

/-! ## Streams of events -/

/-- **The same events do the same to a test under another name**, and the same are rejected. -/
theorem Twin.consume (h : Twin name base s s') (hfiled : s.Filed) (hfalls : p.FallsBack t name base)
    {suite : String} {events : List Event}
    (htest : ∀ e ∈ events, ∀ test ∈ e.action.test?,
      test.name = base ∧ (test.under suite).name = name)
    (hbase : p.Along (p.Undisturbed t) s (p.processed s events))
    (hunder : p.Along (p.Undisturbed t) s' (p.processed s' (events.map (Event.under suite)))) :
    Twin name base (p.consume s events).state
        (p.consume s' (events.map (Event.under suite))).state ∧
      p.rejections s' (events.map (Event.under suite)) =
        (p.rejections s events).map (Event.under suite) := by
  induction events generalizing s s' with
  | nil => exact ⟨h, rfl⟩
  | cons e rest ih =>
    obtain ⟨htest, hrest⟩ := List.forall_mem_cons.mp htest
    obtain ⟨hnext, hrejects, hends⟩ := h.step hfiled hfalls htest hbase.1 hunder.1
    have hbase := hbase.2
    have hunder := hunder.2
    rw [consume_state, consume_state, List.map_cons, processed, processed, run_cons, run_cons,
      rejections, rejections, hrejects]
    rw [hends] at hunder ⊢
    cases hended : (endOf? (p.step s e).answer).isSome with
    | true =>
      -- An event that ends the stream is not rejected.
      have hkept : ¬ Processor.rejects (p.step s e).answer = true := by
        intro hrejected
        rw [(endOf?_of_rejects hrejected).1] at hended
        cases hended
      rw [if_neg hkept, if_neg hkept]
      exact ⟨hnext, rfl⟩
    | false =>
      rw [hended] at hbase hunder
      obtain ⟨hstate, hrejections⟩ := ih hnext (hfiled.step e) hrest hbase hunder
      rw [consume_state, consume_state] at hstate
      refine ⟨hstate, ?_⟩
      rw [hrejections]
      cases Processor.rejects (p.step s e).answer <;> rfl

/-- **A test under a suite behaves as the test itself.** No expectation in force is about the test
under the suite, no baseline of its own can be read, and the runs are not disturbed from outside.
Then events that name the suite give attempts that differ in their names and in the paths of their
artifacts, and in nothing else; the test is known to be slow under both names or under neither; and
the same events are rejected. -/
theorem consume_under (p : Processor) (t : FileTree) (c : Config) {test suite : String}
    (hsuite : suite ≠ "") (hslash : '/' ∉ suite.toList) {platform texts : List String}
    (hexpectations : Expectations.ofTexts? platform texts = .ok p.expectations)
    (hlines : ∀ l ∈ Expectation.inForce platform texts,
      l.isFor false (TestName.full test (some suite)) = false ∧
        l.covers (TestName.full test (some suite)) = false)
    (hown : ∀ name, Layout.baselineName (TestName.full test (some suite)) = .ok name →
      ∀ dir ∈ p.extraction.layout.searchDirs, (t.readText (Path.join dir name)).toOption = none)
    {events : List Event} (htest : ∀ e ∈ events, ∀ id ∈ e.action.test?, id = ⟨test, none⟩)
    (hbase : p.Along (p.Undisturbed t) (start t c) (p.processed (start t c) events))
    (hunder : p.Along (p.Undisturbed t) (start t c)
      (p.processed (start t c) (events.map (Event.under suite)))) :
    let after := (p.consume (start t c) events).state.history
    let after' := (p.consume (start t c) (events.map (Event.under suite))).state.history
    let name := TestName.full test (some suite)
    let base := TestName.full test none
    List.Forall₂ (Attempt.Alike name) (after.attempts base) (after'.attempts name) ∧
      after'.isSlow name = after.isSlow base ∧
      p.rejections (start t c) (events.map (Event.under suite)) =
        (p.rejections (start t c) events).map (Event.under suite) := by
  intro after after' name base
  have hlook : p.expectations.look? name = none := by
    rw [(Expectations.tabulates_ofTexts? hexpectations).look?_eq]
    exact Expectation.declaredFor?_eq_none hlines
  have hfalls : p.FallsBack t name base := fallsBack_of_suite hsuite hslash hlook hown
  have htwin : Twin name base (start t c) (start t c) := ⟨rfl, rfl, rfl, rfl, .nil, rfl⟩
  have htest (e : Event) (he : e ∈ events) (id : TestId) (hid : id ∈ e.action.test?) :
      id.name = base ∧ (id.under suite).name = name := by
    rw [htest e he id hid]
    exact ⟨rfl, rfl⟩
  obtain ⟨hafter, hrejections⟩ := htwin.consume (start_filed t c) hfalls htest hbase hunder
  exact ⟨hafter.attempts, hafter.slow, hrejections⟩

/-- A processor that knows some tests to be slow. -/
def slowSample : Processor :=
  { sample with
    expectations := (Expectations.ofTexts? [] ["e* [ Slow Pass ]"]).toOption.getD {} }

/-- A test that crashes, and a second end, which is rejected. -/
def crashEvents : List Event :=
  [{ action := .testStart ⟨"a", none⟩ },
   { action := .processOutput "chromedriver" (.string "gone") },
   { time := 5, action := .testEnd ⟨"a", none⟩ { status := "CRASH" } [] },
   { time := 6, action := .testEnd ⟨"a", none⟩ { status := "PASS" } [] }]

theorem consume_under_sample :
    let events := crashEvents.map (Event.under "s")
    let after := (slowSample.consume (start {} {}) events).state.history
    (after.attempts (TestName.full "a" (some "s"))).length = 1 ∧
      after.isSlow (TestName.full "a" (some "s")) = true ∧
      slowSample.rejections (start {} {}) events =
        (slowSample.rejections (start {} {}) crashEvents).map (Event.under "s") := by
  have hexpectations : Expectations.ofTexts? [] ["e* [ Slow Pass ]"] =
      .ok slowSample.expectations := by rfl
  have hlines : ∀ l ∈ Expectation.inForce [] ["e* [ Slow Pass ]"],
      l.isFor false (TestName.full "a" (some "s")) = false ∧
        l.covers (TestName.full "a" (some "s")) = false := by decide +kernel
  have hown : ∀ name, Layout.baselineName (TestName.full "a" (some "s")) = .ok name →
      ∀ dir ∈ slowSample.extraction.layout.searchDirs,
        (FileTree.readText {} (Path.join dir name)).toOption = none := by
    have hname : Layout.baselineName (TestName.full "a" (some "s")) =
        .ok "virtual/s/external/wpt/a-expected.txt" := by decide +kernel
    intro name h
    rw [hname, Except.ok.injEq] at h
    subst h
    decide +kernel
  have hprocessed : slowSample.processed (start {} {}) crashEvents = crashEvents := by rfl
  have hprocessed' : slowSample.processed (start {} {}) (crashEvents.map (Event.under "s")) =
      crashEvents.map (Event.under "s") := by rfl
  have htest : ∀ e ∈ crashEvents, ∀ id ∈ e.action.test?, id = ⟨"a", none⟩ := by decide
  have hbase : slowSample.Along (slowSample.Undisturbed {}) (start {} {})
      (slowSample.processed (start {} {}) crashEvents) := by
    rw [hprocessed]
    refine ⟨⟨fun _ _ _ _ _ ↦ rfl, ?_⟩, ⟨fun _ _ h ↦ ?_, ?_⟩, ⟨fun _ _ h ↦ ?_, ?_⟩,
      ⟨fun _ _ h ↦ ?_, ?_⟩, trivial⟩
    all_goals first | cases h | decide +kernel
  have hunder : slowSample.Along (slowSample.Undisturbed {}) (start {} {})
      (slowSample.processed (start {} {}) (crashEvents.map (Event.under "s"))) := by
    rw [hprocessed']
    refine ⟨⟨fun _ _ _ _ _ ↦ rfl, ?_⟩, ⟨fun _ _ h ↦ ?_, ?_⟩, ⟨fun _ _ h ↦ ?_, ?_⟩,
      ⟨fun _ _ h ↦ ?_, ?_⟩, trivial⟩
    all_goals first | cases h | decide +kernel
  obtain ⟨hattempts, hslow, hrejections⟩ := consume_under slowSample {} {} (by decide) (by decide)
    hexpectations hlines hown htest hbase hunder
  have hbefore : ((slowSample.consume (start {} {}) crashEvents).state.history.attempts
        (TestName.full "a" none)).length = 1 ∧
      (slowSample.consume (start {} {}) crashEvents).state.history.isSlow
        (TestName.full "a" none) = true := by decide +kernel
  exact ⟨hattempts.length_eq.symm.trans hbefore.1, hslow.trans hbefore.2, hrejections⟩

end Processor

end WebTestRun
