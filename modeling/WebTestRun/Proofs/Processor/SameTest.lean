import WebTestRun.Proofs.Processor.Ends
import WebTestRun.Proofs.TestName.Suite

/-!
# Events about the same test

The runner names a test by an identifier and a suite, and a run names it by one text. The text tells
the identifier, up to one slash in front, and the suite, unless that holds a slash itself. So two
events are about the same attempt exactly if the runner names the same test in both.

* `TestId.Same` — two names of the runner for one test, `TestId.name_eq_iff` — they are those that
  make the same text.
* `State.attempt?` — the attempt in flight that an event is about, `ActsOn` — what it does to it.
* `shared_iff_same_test` — all of it together, and which screenshots are those of the test.
-/

set_option autoImplicit false

namespace WebTestRun

namespace TestId

/-- The suite that a test runs under has no slash in its name. -/
def Proper (a : TestId) : Prop := ∀ suite ∈ a.suite, '/' ∉ suite.toList

instance (a : TestId) : Decidable a.Proper :=
  inferInstanceAs (Decidable (∀ suite ∈ a.suite, '/' ∉ suite.toList))

/-- The runner names the same test. A slash in front does not count, and an empty suite is none. -/
structure Same (a b : TestId) : Prop where
  /-- The identifiers agree but for a slash in front. -/
  test : TestName.withoutSlash a.test = TestName.withoutSlash b.test
  /-- The suites agree. -/
  suite : (a.suite.filter fun s ↦ !s.isEmpty) = b.suite.filter fun s ↦ !s.isEmpty

variable {a b : TestId}

/-- **Two names of the runner make the same text exactly if they are for one test.** -/
theorem name_eq_iff (ha : a.Proper) (hb : b.Proper) : a.name = b.name ↔ a.Same b := by
  constructor
  · intro h
    have hsplit : TestName.splitVirtual a.name = TestName.splitVirtual b.name := by rw [h]
    rw [name, name, TestName.splitVirtual_full_eq _ ha, TestName.splitVirtual_full_eq _ hb,
      Prod.mk.injEq] at hsplit
    refine ⟨?_, hsplit.1⟩
    rw [← TestName.withoutPublicPrefix_base, ← TestName.withoutPublicPrefix_base]
    exact congrArg TestName.withoutPublicPrefix hsplit.2
  · intro h
    have hbase : TestName.base a.test = TestName.base b.test := by
      rw [TestName.base, TestName.base, h.test]
    rw [name, name, TestName.full, TestName.full, h.suite, hbase]

end TestId

/-- The URL of a test, as it is compared with those of screenshots, is what the runner calls it. -/
theorem Extraction.urlOf_name {a : TestId} (ha : a.Proper) :
    urlOf a.name = TestName.withoutSlash a.test := by
  rw [urlOf, TestId.name, TestName.splitVirtual_full_eq _ ha]
  exact TestName.withoutPublicPrefix_base a.test

namespace Processor

variable {p : Processor} {s : State} {e : Event}

/-! ## Attempts and the events about them -/

/-- The attempt in flight that an event is about. -/
def State.attempt? (s : State) (e : Event) : Option Attempt.Running :=
  e.action.test?.bind fun test ↦ Keyed.find? test.name s.running

/-- An event that is about a test does to an attempt at it what it says. -/
structure ActsOn (p : Processor) (s : State) (e : Event) (n : String) (r : Attempt.Running) :
    Prop where
  /-- The test cannot start once more. -/
  starts : ∀ test, e.action = .testStart test →
    (p.step s e).answer = .error (.rejected (.alreadyStarted n))
  /-- A status of a subtest is one of the attempt, unless the subtest has reported before. -/
  reports : ∀ test subtest report, e.action = .testStatus test subtest report →
    Keyed.find? n (p.step s e).state.running =
      some ((r.report subtest report.status report.message).toOption.getD r)
  /-- The end of the test is that of the attempt. -/
  ends : ∀ test report screenshots, e.action = .testEnd test report screenshots →
    Keyed.find? n (p.step s e).state.running = none ∧
      ending? s e = (r.finish report.status report.message e.time).toOption.map fun ended ↦
        (ended.1, screenshots)

/-- The end of a followed test leaves no attempt at it in flight. -/
theorem find?_running_testEnd (p : Processor) (s : State) (time : Int) (test : TestId)
    (report : StatusReport) (screenshots : List Screenshot) :
    Keyed.find? test.name (p.testEnd s time test report screenshots).state.running = none := by
  have herased : Keyed.find? test.name (Keyed.erase test.name s.running) = none := by
    rw [Keyed.find?_erase, if_pos rfl]
  unfold testEnd
  dsimp only
  split
  · assumption
  · split
    · exact herased
    · split
      · exact herased
      · exact herased

/-- An event acts on the attempt that it is about. -/
theorem actsOn_of_find? {test : TestId} {r : Attempt.Running}
    (htest : e.action.test? = some test) (hself : s.reportsItself = false)
    (hrunning : Keyed.find? test.name s.running = some r) : p.ActsOn s e test.name r := by
  have heq {test' : TestId} (h : e.action.test? = some test') : test' = test :=
    Option.some.inj (h.symm.trans htest)
  refine ⟨fun test' haction ↦ ?_, fun test' subtest report haction ↦ ?_,
    fun test' report screenshots haction ↦ ?_⟩
  · obtain rfl := heq (by rw [haction]; rfl)
    have hhas : Keyed.has test'.name s.running = true := by
      rw [Keyed.has, hrunning]
      rfl
    rw [step_of_testStart haction hself, testStart, if_pos hhas]
    rfl
  · obtain rfl := heq (by rw [haction]; rfl)
    rw [step_of_testStatus haction hself, testStatus]
    simp only [hrunning]
    cases r.report subtest report.status report.message with
    | error fault => exact hrunning
    | ok after =>
      show Keyed.find? test'.name (Keyed.insert test'.name after s.running) = some after
      rw [Keyed.find?_insert, if_pos rfl]
  · obtain rfl := heq (by rw [haction]; rfl)
    rw [step_of_testEnd haction hself]
    exact ⟨find?_running_testEnd p s _ _ _ _, ending?_of_finish haction hself hrunning⟩

/-! ## The same test -/

/-- **Events are about the same attempt exactly if they name the same test.** -/
theorem shared_iff_same_test (p : Processor) (t : FileTree) (c : Config) :
    (∀ (test : String) (suite : Option String), (∀ s ∈ suite, '/' ∉ s.toList) →
      TestName.splitVirtual (TestName.full test suite) =
        (suite.filter fun s ↦ !s.isEmpty, TestName.full test none) ∧
      TestName.withoutPublicPrefix (TestName.full test none) = TestName.withoutSlash test) ∧
    (∀ before e between f a b r, e.action.test? = some a → f.action.test? = some b →
      a.Proper → b.Proper →
      Keyed.find? a.name (p.run (start t c) (before ++ [e])).running = some r →
      (∀ g ∈ between, ∀ test, g.action.test? = some test → test.Proper ∧ ¬ a.Same test) →
      let s := p.run (start t c) (before ++ [e] ++ between)
      (a.name = b.name ↔ a.Same b) ∧
      (s.attempt? f = some r ↔ a.Same b) ∧
      (a.Same b → s.reportsItself = false → p.ActsOn s f a.name r) ∧
      (¬ a.Same b → Keyed.find? a.name (p.step s f).state.running = some r)) ∧
    ∀ events e a attempt screenshots, e.action.test? = some a → a.Proper →
      ending? (p.run (start t c) events) e = some (attempt, screenshots) →
      ∀ iteration shots w url data bytes,
        Base64.decode? (String.ofList (Text.trim data.toList)) = some bytes →
        p.extraction.writeShot iteration attempt.name (shots, w) (.image url data) =
          if TestName.withoutSlash url = TestName.withoutSlash a.test then
            (TestName.outputPath attempt.name "-actual" ".png").map fun path ↦
              ({ shots with actual := some bytes },
                p.extraction.create iteration "actual_image" path bytes w)
          else
            (TestName.outputPath attempt.name "-expected" ".png").map fun path ↦
              ({ shots with expected := some bytes },
                p.extraction.create iteration "expected_image" path bytes w) := by
  refine ⟨fun test suite hslash ↦ ⟨TestName.splitVirtual_full_eq test hslash,
    TestName.withoutPublicPrefix_base test⟩, ?_, ?_⟩
  · intro before e between f a b r he hf ha hb hr hbetween s
    have hname := TestId.name_eq_iff ha hb
    have hfound : Keyed.find? a.name s.running = some r := by
      rw [← hr, show s = p.run (p.run (start t c) (before ++ [e])) between from
        run_append p _ _ _]
      refine find?_running_run p _ fun g hg test htest h ↦ ?_
      obtain ⟨hproper, hother⟩ := hbetween g hg test htest
      exact hother ((TestId.name_eq_iff ha hproper).mp h.symm)
    have hfiled : s.Filed := (start_filed t c).run _
    have hattempt : s.attempt? f = some r ↔ a.Same b := by
      rw [State.attempt?, hf, Option.bind_some, ← hname]
      constructor
      · intro h
        rw [← hfiled _ _ hfound, hfiled _ _ h]
      · intro h
        rw [← h]
        exact hfound
    refine ⟨hname, hattempt, fun hsame hself ↦ ?_, fun hother ↦ ?_⟩
    · rw [hname.mpr hsame]
      exact actsOn_of_find? hf hself (hname.mpr hsame ▸ hfound)
    · rw [find?_running_step p s fun test htest h ↦ ?_]
      · exact hfound
      · rw [hf] at htest
        obtain rfl := Option.some.inj htest
        exact hother (hname.mp h.symm)
  · intro events e a attempt screenshots he ha hending iteration shots w url data bytes hbytes
    have hattempt : attempt.name = a.name :=
      name_of_ending? ((start_filed t c).run events) he hending
    rw [Extraction.writeShot, hbytes, hattempt, Extraction.urlOf_name ha]

/-! ## A test that is named like one under a suite -/

/-- A test under a suite, whose identifier looks like the name of a test under that suite. -/
def nested : TestId := ⟨"/virtual/v/a", some "v"⟩

/-- The same test. -/
def nestedToo : TestId := ⟨"virtual/v/a", some "v"⟩

/-- The test that has no suite. -/
def nestedAlone : TestId := ⟨"virtual/v/a", some ""⟩

/-- The attempt at the first one. -/
def nestedAttempt : Attempt.Running where
  name := "virtual/v/external/wpt/virtual/v/a"
  kind := .reftest
  filePath := "external/wpt/virtual/v/a"
  started := 1
  expected := (sample.expectations.get "virtual/v/external/wpt/virtual/v/a").verdicts
  baselineText := none

theorem shared_iff_same_test_sample :
    let begun : Event := { time := 1, action := .testStart nested }
    let other : Event := { time := 2, action := .testStart nestedAlone }
    let ended : Event := { time := 3, action := .testEnd nestedToo { status := "PASS" } [] }
    let s := sample.run (start {} {}) [begun, other]
    TestName.splitVirtual nested.name = (some "v", TestName.full nested.test none) ∧
      s.attempt? ended = some nestedAttempt ∧
      sample.ActsOn s ended nested.name nestedAttempt ∧
      Keyed.find? nested.name (sample.step s other).state.running = some nestedAttempt ∧
      ∃ attempt, ending? s ended = some (attempt, []) ∧
        sample.extraction.writeShot 0 attempt.name ({}, { files := {} })
            (.image "/virtual/v/a" "AA==") =
          (TestName.outputPath attempt.name "-actual" ".png").map fun path ↦
            ({ actual := some ⟨#[0]⟩ },
              sample.extraction.create 0 "actual_image" path ⟨#[0]⟩ { files := {} }) := by
  intro begun other ended s
  obtain ⟨hnames, hshared, hshots⟩ := shared_iff_same_test sample {} {}
  have hrun : Keyed.find? nested.name (sample.run (start {} {}) ([] ++ [begun])).running =
      some nestedAttempt := by rfl
  have hsame : nested.Same nestedToo := ⟨by decide, rfl⟩
  have hother : ¬ nested.Same nestedAlone := fun h ↦ absurd h.suite (by decide)
  have hbetween : ∀ g ∈ [other], ∀ test, g.action.test? = some test →
      test.Proper ∧ ¬ nested.Same test := by
    rintro g hg test htest
    obtain rfl := List.mem_singleton.mp hg
    obtain rfl := Option.some.inj htest
    exact ⟨by decide, hother⟩
  obtain ⟨-, hmeets, hacts, -⟩ := hshared [] begun [other] ended nested nestedToo nestedAttempt
    rfl rfl (by decide) (by decide) hrun hbetween
  obtain ⟨-, -, -, hkept⟩ := hshared [] begun [other] other nested nestedAlone nestedAttempt
    rfl rfl (by decide) (by decide) hrun hbetween
  refine ⟨(hnames nested.test nested.suite (by decide)).1, hmeets.mpr hsame, hacts hsame rfl,
    hkept hother, _, rfl, ?_⟩
  exact (hshots [begun, other] ended nestedToo _ _ rfl (by decide) rfl 0 {} { files := {} }
    "/virtual/v/a" "AA==" ⟨#[0]⟩ rfl).trans (if_pos (by decide))

end Processor

end WebTestRun
