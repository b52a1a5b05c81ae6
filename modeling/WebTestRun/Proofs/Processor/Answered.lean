import WebTestRun.Proofs.Collection.Answer
import WebTestRun.Proofs.Processor.Run
import WebTestRun.Proofs.TestName.Stem

/-!
# Events that are answered

An event is answered unless it is about a test whose files cannot be named: then the baseline of
the test cannot be looked up, and its artifacts cannot be written. Nothing else keeps an event from
being answered.

* `Layout.expectedText_failsWith`, `Extraction.extract_failsWith` — what may go wrong with files.
* `Processor.answersBut_step` — what may go wrong with an event.
* `Processor.answer_testStart` — what does go wrong.
* `Processor.answered_unless_unnameable` — both, for runs.
-/

set_option autoImplicit false

namespace WebTestRun

open Answer (FailsWith)
open TestName (Nameable Unnameable)

/-! ## Files about tests -/

/-- The test whose files cannot be named is one of some tests. -/
def TestName.Unnameable.Among (tests : List String) (e : Unnameable) : Prop :=
  e.test ∈ tests ∧ ¬ Nameable e.test

variable {tests : List String}

theorem TestName.outputPath_failsWith {test : String} (h : test ∈ tests)
    (suffix extension : String) :
    FailsWith (Unnameable.Among tests) (outputPath test suffix extension) := by
  intro e he
  obtain ⟨rfl, hnot⟩ := outputPath_eq_error_iff.mp he
  exact ⟨h, hnot⟩

theorem Layout.firstBaseline_failsWith (l : Layout) (t : FileTree) (test : String)
    {candidates : List String} (h : candidates ⊆ tests) :
    FailsWith (Unnameable.Among tests) (l.firstBaseline t test candidates) := by
  induction candidates with
  | nil => exact .ok _
  | cons candidate rest ih =>
    obtain ⟨hcandidate, hrest⟩ := List.cons_subset.mp h
    rw [firstBaseline]
    refine .bind (TestName.outputPath_failsWith hcandidate _ _) fun name ↦ ?_
    dsimp only
    split
    · exact .ok _
    · exact .bind (ih hrest) fun found ↦ .ok _

theorem Layout.expectedText_failsWith (l : Layout) (t : FileTree) (test : String) :
    FailsWith (Unnameable.Among (candidates test)) (l.expectedText t test) :=
  l.firstBaseline_failsWith t test fun _ h ↦ h

theorem Layout.exists_candidates_eq_cons (test : String) :
    ∃ rest, candidates test = test :: rest := by
  rw [candidates]
  split <;> exact ⟨_, rfl⟩

theorem Layout.mem_candidates (test : String) : test ∈ candidates test := by
  obtain ⟨rest, hcandidates⟩ := exists_candidates_eq_cons test
  rw [hcandidates]
  exact List.mem_cons_self

namespace Extraction

variable (x : Extraction) (iteration : Nat)

theorem writeTexts_failsWith {a : Attempt} (h : a.name ∈ tests) (w : Writing) :
    FailsWith (Unnameable.Among tests) (x.writeTexts iteration a w) := by
  have hpath (suffix extension : String) :
      FailsWith (Unnameable.Among tests) (TestName.outputPath a.name suffix extension) :=
    TestName.outputPath_failsWith h suffix extension
  refine .bind (hpath _ _) fun actualPath ↦ .bind (hpath _ _) fun expectedPath ↦ ?_
  dsimp only
  split
  · exact .ok _
  · exact .bind (hpath _ _) fun diffPath ↦ .bind (hpath _ _) fun pagePath ↦ .ok _

theorem writeShot_failsWith {test : String} (h : test ∈ tests) (s : Shots × Writing)
    (shot : Screenshot) :
    FailsWith (Unnameable.Among tests) (x.writeShot iteration test s shot) := by
  unfold writeShot
  split
  · exact .ok _
  · dsimp only
    split
    · exact .ok _
    · split
      · exact .map (TestName.outputPath_failsWith h _ _) _
      · exact .map (TestName.outputPath_failsWith h _ _) _

theorem writeDifference_failsWith {test : String} (h : test ∈ tests) (expected actual : ByteArray)
    (w : Writing) :
    FailsWith (Unnameable.Among tests) (x.writeDifference iteration test expected actual w) := by
  unfold writeDifference
  split
  · exact .ok _
  · exact .map (TestName.outputPath_failsWith h _ _) _
  · exact .ok _

theorem writeShots_failsWith {test : String} (h : test ∈ tests) (screenshots : List Screenshot)
    (w : Writing) :
    FailsWith (Unnameable.Among tests) (x.writeShots iteration test screenshots w) := by
  refine .bind (.foldlM (x.writeShot_failsWith iteration h) _ screenshots) fun shots ↦ ?_
  dsimp only
  split
  · exact x.writeDifference_failsWith iteration h _ _ _
  · exact .ok _

theorem writeLog_failsWith {test : String} (h : test ∈ tests) (id suffix : String)
    (lines : List String) (w : Writing) :
    FailsWith (Unnameable.Among tests) (x.writeLog iteration test id suffix lines w) := by
  unfold writeLog
  split
  · exact .ok _
  · exact .map (TestName.outputPath_failsWith h _ _) _

theorem writeResults_failsWith {a : Attempt} (h : a.name ∈ tests) (screenshots : List Screenshot)
    (w : Writing) :
    FailsWith (Unnameable.Among tests) (x.writeResults iteration a screenshots w) := by
  unfold writeResults
  split
  · split
    · exact .bind (x.writeTexts_failsWith iteration h w) fun w ↦
        x.writeShots_failsWith iteration h screenshots w
    · exact .bind (.ok w) fun w ↦ x.writeShots_failsWith iteration h screenshots w
  · exact .ok _

theorem extract_failsWith {a : Attempt} (h : a.name ∈ tests) (files : FileTree)
    (screenshots : List Screenshot) (crashLog : List String) :
    FailsWith (Unnameable.Among tests) (x.extract files iteration a screenshots crashLog) :=
  .bind (x.writeResults_failsWith iteration h screenshots _) fun _ ↦
    .bind (x.writeLog_failsWith iteration h _ _ _ _) fun _ ↦
      .bind (x.writeLog_failsWith iteration h _ _ _ _) fun _ ↦ .ok _

end Extraction

/-! ## Events -/

namespace Processor

variable {p : Processor} {s : State} {e : Event}

/-- Nothing keeps an event from being answered but that one of some tests cannot be named. -/
def AnswersBut (tests : List String) (answer : Except Failure Response) : Prop :=
  ∀ n, answer = .error (.unnameable n) → n.Among tests

theorem answersBut_testStart (p : Processor) (s : State) (time : Int) (test : TestId) :
    AnswersBut (Layout.candidates test.name) (p.testStart s time test).answer := by
  intro n h
  unfold testStart at h
  dsimp only at h
  split at h
  · cases h
  · split at h
    · cases h
    · split at h
      · rename_i found hbaseline
        cases h
        rw [baselineFor] at hbaseline
        split at hbaseline
        · exact Layout.expectedText_failsWith _ _ _ _ hbaseline
        · cases hbaseline
      · cases h

theorem answersBut_testStatus (s : State) (test : TestId) (subtest : String) (r : StatusReport) :
    AnswersBut tests (testStatus s test subtest r).answer := by
  intro n h
  unfold testStatus at h
  dsimp only at h
  split at h
  · cases h
  · split at h
    · cases h
    · cases h

theorem answersBut_testEnd (hfiled : s.Filed) (time : Int) (test : TestId) (r : StatusReport)
    (screenshots : List Screenshot) :
    AnswersBut (Layout.candidates test.name) (p.testEnd s time test r screenshots).answer := by
  intro n h
  unfold testEnd at h
  dsimp only at h
  split at h
  · cases h
  · rename_i running hrunning
    split at h
    · cases h
    · rename_i attempt judged hfinish
      split at h
      · rename_i found hextract
        cases h
        have hname : attempt.name = test.name :=
          (Attempt.Running.finish_name hfinish).trans (hfiled _ _ hrunning)
        have hmem : attempt.name ∈ Layout.candidates test.name := by
          rw [hname]
          exact Layout.mem_candidates test.name
        exact p.extraction.extract_failsWith s.iteration hmem _ _ _ _ hextract
      · cases h

/-- The tests whose files are looked at with an event. -/
def testsOf (e : Event) : List String :=
  e.action.test?.toList.flatMap fun test ↦ Layout.candidates test.name

/-- **An event is answered unless it is about a test whose files cannot be named.** -/
theorem answersBut_step (hfiled : s.Filed) (e : Event) :
    AnswersBut (testsOf e) (p.step s e).answer := by
  have htests {test : TestId} (h : e.action.test? = some test) :
      testsOf e = Layout.candidates test.name := by
    rw [testsOf, h, Option.toList_some, List.flatMap_singleton]
  unfold step
  split
  · nofun
  · split
    · nofun
    · rename_i test haction
      rw [htests (by rw [haction]; rfl)]
      exact p.answersBut_testStart s e.time test
    · exact answersBut_testStatus s _ _ _
    · rename_i test report screenshots haction
      rw [htests (by rw [haction]; rfl)]
      exact answersBut_testEnd hfiled e.time test report screenshots
    · nofun
    · nofun
    · unfold processOutput
      split <;> nofun
    · nofun
    · nofun
    · nofun

/-- The start of a test that is followed, not in flight, listed and of a kind with subtests is not
answered if files about the test cannot be named. -/
theorem answer_testStart {test : TestId} {kind : TestKind} {file : String}
    (haction : e.action = .testStart test) (hself : s.reportsItself = false)
    (hrunning : Keyed.has test.name s.running = false)
    (hlisted : p.lookup.resolve test.name = .ok (kind, file)) (hkind : kind.hasSubtests = true)
    (hnot : ¬ Nameable test.name) :
    (p.step s e).answer = .error (.unnameable ⟨test.name⟩) := by
  have hbaseline : p.baselineFor s kind test.name = .error ⟨test.name⟩ := by
    obtain ⟨rest, hcandidates⟩ := Layout.exists_candidates_eq_cons test.name
    have hname : Layout.baselineName test.name = .error ⟨test.name⟩ :=
      TestName.outputPath_eq_error_iff.mpr ⟨rfl, hnot⟩
    rw [baselineFor, if_pos hkind, Layout.expectedText, hcandidates, Layout.firstBaseline, hname]
    rfl
  have hstep : p.step s e = p.testStart s e.time test := by
    rw [step, haction, hself, Bool.and_false, if_neg Bool.false_ne_true]
  simp only [hstep, testStart, hrunning, hlisted, hbaseline, Bool.false_eq_true, if_false]

/-! ## Runs -/

theorem Along.imp {holds holds' : State → Event → Prop} {events : List Event}
    (h : p.Along holds s events) (himp : ∀ s, ∀ e ∈ events, holds s e → holds' s e) :
    p.Along holds' s events := by
  induction events generalizing s with
  | nil => trivial
  | cons e rest ih =>
    exact ⟨himp s e List.mem_cons_self h.1,
      ih h.2 fun s e he ↦ himp s e (List.mem_cons_of_mem _ he)⟩

theorem answersBut_run (hfiled : s.Filed) (events : List Event) :
    p.Along (fun s e ↦ AnswersBut (testsOf e) (p.step s e).answer) s events := by
  induction events generalizing s with
  | nil => trivial
  | cons e rest ih => exact ⟨answersBut_step hfiled e, ih (hfiled.step e)⟩

/-- An event is answered: it is processed, or it is rejected, or its status is none. -/
def Answered (answer : Except Failure Response) : Prop := ∀ n, answer ≠ .error (.unnameable n)

/-- **Events are answered unless files about their tests cannot be named.** If they all can be
named, every event of a run is answered. But after any run, the start of a test whose own files
cannot be named is not, where the baseline of the test is looked up. -/
theorem answered_unless_unnameable (p : Processor) (t : FileTree) (c : Config)
    (events : List Event) :
    ((∀ e ∈ events, ∀ test ∈ testsOf e, Nameable test) →
      p.Along (fun s e ↦ Answered (p.step s e).answer) (start t c) events) ∧
    ∀ e test kind file,
      let s := p.run (start t c) events
      e.action = .testStart test → s.reportsItself = false →
        Keyed.has test.name s.running = false → p.lookup.resolve test.name = .ok (kind, file) →
          kind.hasSubtests = true → ¬ Nameable test.name →
            (p.step s e).answer = .error (.unnameable ⟨test.name⟩) := by
  constructor
  · intro hnameable
    refine (answersBut_run (start_filed t c) events).imp fun s e he hanswer n hn ↦ ?_
    obtain ⟨hmem, hnot⟩ := hanswer n hn
    exact hnot (hnameable e he n.test hmem)
  · intro e test kind file s haction hself hrunning hlisted hkind hnot
    exact answer_testStart haction hself hrunning hlisted hkind hnot

/-- The start of a test whose path goes on after its last name. -/
def slashedStart : Event := { action := .testStart ⟨"a.é//", none⟩ }

theorem answered_unless_unnameable_sample :
    sample.Along (fun s e ↦ Answered (sample.step s e).answer) (start {} {}) sampleEvents ∧
      (subtestSample.step (start {} {}) slashedStart).answer =
        .error (.unnameable ⟨"external/wpt/a.é//"⟩) :=
  ⟨(answered_unless_unnameable sample {} {} sampleEvents).1 (by decide +kernel),
    (answered_unless_unnameable subtestSample {} {} []).2 slashedStart ⟨"a.é//", none⟩ .testharness
      "external/wpt/a.é//" rfl rfl rfl (by rfl) rfl (by decide +kernel)⟩

/-- Not every event of every run is answered. -/
theorem exists_unanswered :
    ¬ ∀ (p : Processor) (t : FileTree) (c : Config) (events : List Event),
      p.Along (fun s e ↦ Answered (p.step s e).answer) (start t c) events := by
  intro h
  have haction : slashedStart.action = .testStart ⟨"a.é//", none⟩ := rfl
  have hanswer : (subtestSample.step (start {} {}) slashedStart).answer =
      .error (.unnameable ⟨"external/wpt/a.é//"⟩) :=
    answer_testStart haction rfl rfl (by rfl) rfl (by decide +kernel)
  exact (h subtestSample {} {} [slashedStart]).1 _ hanswer

end Processor

end WebTestRun
