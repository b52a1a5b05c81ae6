import Mathlib.Data.List.Infix
import WebTestRun.Proofs.Processor.Conservation
import WebTestRun.Proofs.Text.Pieces

/-!
# Events that end an attempt, and all others

While a run goes on, an event ends an attempt or it leaves files, counts and kept attempts as they
are. What is said of attempts, files and crashed browsers splits on these two.

* `Processor.crashLines` — the lines that crashed browsers write with an event.
* `Processor.Quiet`, `Processor.Ends` — what an event does that ends no attempt, and that ends one.
* `Processor.quiet_or_ends` — every event of a run that goes on is one of the two.
-/

set_option autoImplicit false

namespace WebTestRun.Processor

variable {p : Processor} {s after : State} {e : Event}

/-- The artifacts of the attempt that ends with an event, if one does, are written. -/
def Saves (p : Processor) (s : State) (e : Event) : Prop :=
  ∀ ended ∈ ending? s e, p.extraction.Stores s.iteration s.files ended.1 ended.2 s.crashLog

instance (p : Processor) (s : State) (e : Event) : Decidable (p.Saves s e) :=
  inferInstanceAs (Decidable (∀ ended ∈ ending? s e, _))

/-- How many suites end with an event. -/
def suiteEnds (e : Event) : Nat :=
  match e.action with
  | .suiteEnd => 1
  | _ => 0

/-- The lines that a crashed browser writes with an event: one for output of a command that
contains the name of an executable to watch. A text is the line itself, and of any other value the
line is its JSON. -/
def crashLines (p : Processor) (e : Event) : List String :=
  match e.action with
  | .processOutput command data =>
    if ∃ executable ∈ p.crashLogExecutables, executable.toList <:+: command.toList then
      match data with
      | .string text => [text ++ "\n"]
      | value => [value.written ++ "\n"]
    else []
  | _ => []

/-- What an event changes that ends no attempt. -/
structure Quiet (p : Processor) (s : State) (e : Event) (after : State) : Prop where
  /-- A suite may end. -/
  iteration : after.iteration = s.iteration + suiteEnds e
  /-- No file changes. -/
  files : after.files = s.files
  /-- A crashed browser may write a line. -/
  crashLog : after.crashLog = s.crashLog ++ p.crashLines e
  /-- No attempt is counted. -/
  tally : after.tally = s.tally
  /-- No attempt is kept. -/
  tests : after.history.tests = s.history.tests

/-- What an event changes that ends an attempt. -/
structure Ends (p : Processor) (s : State) (e : Event) (after : State)
    (ended : Attempt × List Screenshot) (kept : Attempt) (w : Extraction.Writing) : Prop where
  /-- The attempt ends, with its screenshots. -/
  ending : ending? s e = some ended
  /-- Its artifacts are extracted. -/
  extract : p.extraction.extract s.files s.iteration ended.1 ended.2 s.crashLog = .ok (kept, w)
  /-- No suite ends. -/
  iteration : after.iteration = s.iteration
  /-- The files are those with its artifacts. -/
  files : after.files = w.files
  /-- What crashed browsers wrote is used up. -/
  crashLog : after.crashLog = []
  /-- It is counted unless it is a retry. -/
  tally : after.tally = if s.iteration = 0 then s.tally.add kept.verdict else s.tally
  /-- It is kept. -/
  history : after.history = s.history.push kept

/-! ## Output of crashed browsers -/

/-- The output of a command is kept if the command contains the name of an executable to watch. -/
theorem keepsOutput_iff {command : String} :
    p.keepsOutput command = true ↔
      ∃ executable ∈ p.crashLogExecutables, executable.toList <:+: command.toList := by
  simp only [keepsOutput, List.any_eq_true, Text.occursIn_iff]

/-- The line that is kept of what a process writes is the one that counts. -/
theorem crashLines_of_output (p : Processor) {command : String} {data : Json}
    (h : e.action = .processOutput command data) :
    p.crashLines e = if p.keepsOutput command then [outputLine data] else [] := by
  rw [crashLines, h]
  simp only [keepsOutput_iff]
  cases data <;> rfl

theorem crashLines_of_ne (h : ∀ command data, e.action ≠ .processOutput command data) :
    p.crashLines e = [] := by
  rw [crashLines]
  split
  · rename_i command data haction
    exact absurd haction (h command data)
  · rfl

theorem suiteEnds_of_ne (h : e.action ≠ .suiteEnd) : suiteEnds e = 0 := by
  rw [suiteEnds]
  split
  · rename_i haction
    exact absurd haction h
  · rfl

/-! ## Events that end no attempt -/

/-- An event that ends no suite and is no output of a process is quiet if it leaves all as it is. -/
theorem Quiet.of_eq (hsuite : e.action ≠ .suiteEnd)
    (houtput : ∀ command data, e.action ≠ .processOutput command data)
    (hiteration : after.iteration = s.iteration) (hfiles : after.files = s.files)
    (hcrashLog : after.crashLog = s.crashLog) (htally : after.tally = s.tally)
    (htests : after.history.tests = s.history.tests) : Quiet p s e after where
  iteration := by rw [suiteEnds_of_ne hsuite, Nat.add_zero, hiteration]
  files := hfiles
  crashLog := by rw [crashLines_of_ne houtput, List.append_nil, hcrashLog]
  tally := htally
  tests := htests

/-- An event about a test is no end of a suite and no output of a process. -/
theorem ne_of_test? {test : TestId} (h : e.action.test? = some test) :
    e.action ≠ .suiteEnd ∧ ∀ command data, e.action ≠ .processOutput command data := by
  constructor
  · intro haction
    rw [haction] at h
    cases h
  · intro command data haction
    rw [haction] at h
    cases h

theorem quiet_of_test? {test : TestId} (h : e.action.test? = some test)
    (hiteration : after.iteration = s.iteration) (hfiles : after.files = s.files)
    (hcrashLog : after.crashLog = s.crashLog) (htally : after.tally = s.tally)
    (htests : after.history.tests = s.history.tests) : Quiet p s e after :=
  .of_eq (ne_of_test? h).1 (ne_of_test? h).2 hiteration hfiles hcrashLog htally htests

/-- An event that is about no test is quiet. -/
theorem quiet_of_test?_eq_none (h : e.action.test? = none) : Quiet p s e (p.step s e).state := by
  unfold step
  rw [h, Option.isSome_none, Bool.false_and, if_neg Bool.false_ne_true]
  split
  · rename_i info haction
    exact .of_eq (by simp [haction]) (by simp [haction]) rfl rfl rfl rfl rfl
  · rename_i haction
    rw [haction] at h
    cases h
  · rename_i haction
    rw [haction] at h
    cases h
  · rename_i haction
    rw [haction] at h
    cases h
  · rename_i haction
    refine ⟨?_, rfl, ?_, rfl, rfl⟩
    · rw [suiteEnds, haction]
    · rw [crashLines_of_ne (by simp [haction]), List.append_nil]
  · rename_i haction
    exact .of_eq (by simp [haction]) (by simp [haction]) rfl rfl rfl rfl rfl
  · rename_i command data haction
    have hlines := p.crashLines_of_output haction
    have hsuite : suiteEnds e = 0 := suiteEnds_of_ne (by simp [haction])
    unfold processOutput
    split
    · rename_i hkeeps
      refine ⟨by rw [hsuite, Nat.add_zero], rfl, ?_, rfl, rfl⟩
      rw [hlines, if_pos hkeeps]
    · rename_i hkeeps
      refine ⟨by rw [hsuite, Nat.add_zero], rfl, ?_, rfl, rfl⟩
      rw [hlines, if_neg hkeeps, List.append_nil]
  · rename_i haction
    exact .of_eq (by simp [haction]) (by simp [haction]) rfl rfl rfl rfl rfl
  · rename_i haction
    exact .of_eq (by simp [haction]) (by simp [haction]) rfl rfl rfl rfl rfl
  · rename_i name haction
    exact .of_eq (by simp [haction]) (by simp [haction]) rfl rfl rfl rfl rfl

/-- **An event that ends no attempt is quiet**, if the run goes on. -/
theorem quiet_of_result? (hgoes : p.GoesOn s e) (h : p.result? s e = none) :
    Quiet p s e (p.step s e).state := by
  have hother := quiet_of_test?_eq_none (p := p) (s := s) (e := e)
  have heffect := p.effect s e
  rw [GoesOn] at hgoes
  generalize p.step s e = st at heffect hgoes hother
  cases heffect with
  | ignored test haction => exact quiet_of_test? haction rfl rfl rfl rfl rfl
  | other haction => exact hother haction
  | rejected test haction => exact quiet_of_test? haction rfl rfl rfl rfl rfl
  | started test haction hself running hname history hhistory =>
    exact quiet_of_test? (congrArg _ haction) rfl rfl rfl rfl hhistory
  | reported test subtest report haction =>
    exact quiet_of_test? (congrArg _ haction) rfl rfl rfl rfl rfl
  | ended test report screenshots haction hself running hrunning attempt hresult =>
    rw [hresult] at h
    cases h
  | failed test haction running hrunning hfiled failure hfailure =>
    rcases hgoes with hgoes | hgoes
    · cases hgoes
    · rw [rejects_error_eq_false hfailure] at hgoes
      cases hgoes

/-! ## Events that end an attempt -/

/-- What is needed for an attempt to end. -/
theorem exists_of_ending? {ended : Attempt × List Screenshot} (h : ending? s e = some ended) :
    ∃ test report running judged, e.action = .testEnd test report ended.2 ∧
      s.reportsItself = false ∧ Keyed.find? test.name s.running = some running ∧
      running.finish report.status report.message e.time = .ok (ended.1, judged) := by
  rw [ending?] at h
  split at h
  · rename_i test report screenshots haction
    split at h
    · cases h
    · rename_i hself
      rw [Bool.not_eq_true] at hself
      obtain ⟨running, hrunning, h⟩ := Option.bind_eq_some_iff.mp h
      obtain ⟨⟨a, judged⟩, hfinish, rfl⟩ := Option.map_eq_some_iff.mp h
      exact ⟨test, report, running, judged, haction, hself, hrunning,
        Answer.toOption_eq_some_iff.mp hfinish⟩
  · cases h

/-- The attempt that ends with an event has the name of the test that the event is about. -/
theorem name_of_ending? (hfiled : s.Filed) {test : TestId} (htest : e.action.test? = some test)
    {ended : Attempt × List Screenshot} (h : ending? s e = some ended) :
    ended.1.name = test.name := by
  obtain ⟨test', report, running, judged, haction, -, hrunning, hfinish⟩ := exists_of_ending? h
  rw [haction] at htest
  obtain rfl := Option.some.inj htest
  exact (Attempt.Running.finish_name hfinish).trans (hfiled _ _ hrunning)

/-- An attempt that ends with its artifacts. -/
theorem exists_of_result? {kept : Attempt} (h : p.result? s e = some kept) :
    ∃ ended w, ending? s e = some ended ∧
      p.extraction.extract s.files s.iteration ended.1 ended.2 s.crashLog = .ok (kept, w) := by
  obtain ⟨ended, hending, h⟩ := Option.bind_eq_some_iff.mp h
  obtain ⟨⟨a, w⟩, hextract, rfl⟩ := Option.map_eq_some_iff.mp h
  exact ⟨ended, w, hending, Answer.toOption_eq_some_iff.mp hextract⟩

theorem result?_of_extract {ended : Attempt × List Screenshot} {kept : Attempt}
    {w : Extraction.Writing} (hending : ending? s e = some ended)
    (hextract : p.extraction.extract s.files s.iteration ended.1 ended.2 s.crashLog =
      .ok (kept, w)) : p.result? s e = some kept := by
  rw [result?, hending, Option.bind_some, hextract]
  rfl

/-- The start of a followed test is processed as one. -/
theorem step_of_testStart {test : TestId} (haction : e.action = .testStart test)
    (hself : s.reportsItself = false) : p.step s e = p.testStart s e.time test := by
  rw [step, hself, Bool.and_false, if_neg Bool.false_ne_true, haction]

/-- The status of a subtest of a followed test is processed as one. -/
theorem step_of_testStatus {test : TestId} {subtest : String} {report : StatusReport}
    (haction : e.action = .testStatus test subtest report) (hself : s.reportsItself = false) :
    p.step s e = testStatus s test subtest report := by
  rw [step, hself, Bool.and_false, if_neg Bool.false_ne_true, haction]

/-- The end of a followed attempt in flight is processed as one. -/
theorem step_of_testEnd {test : TestId} {report : StatusReport} {screenshots : List Screenshot}
    (haction : e.action = .testEnd test report screenshots) (hself : s.reportsItself = false) :
    p.step s e = p.testEnd s e.time test report screenshots := by
  rw [step, hself, Bool.and_false, if_neg Bool.false_ne_true, haction]

/-- **An event that ends an attempt** keeps it and its files, and uses up what crashed browsers
wrote. -/
theorem ends_of_result? {kept : Attempt} (h : p.result? s e = some kept) :
    ∃ ended w, Ends p s e (p.step s e).state ended kept w := by
  obtain ⟨ended, w, hending, hextract⟩ := exists_of_result? h
  obtain ⟨test, report, running, judged, haction, hself, hrunning, hfinish⟩ :=
    exists_of_ending? hending
  have hkeep : ∃ logs, p.testEnd s e.time test report ended.2 = p.keep
      { s with running := Keyed.erase test.name s.running, files := w.files, crashLog := [] }
      kept logs := by
    unfold testEnd
    simp only [hrunning, hfinish, hextract]
    exact ⟨_, rfl⟩
  obtain ⟨logs, hkeep⟩ := hkeep
  rw [step_of_testEnd haction hself, hkeep]
  exact ⟨ended, w, hending, hextract, rfl, rfl, rfl, rfl, rfl⟩

/-- While a run goes on, no attempt ends without being kept. -/
theorem ending?_eq_none_of_result? (hgoes : p.GoesOn s e) (h : p.result? s e = none) :
    ending? s e = none := by
  cases hending : ending? s e with
  | none => rfl
  | some ended =>
    obtain ⟨test, report, running, judged, haction, hself, hrunning, hfinish⟩ :=
      exists_of_ending? hending
    cases hextract : p.extraction.extract s.files s.iteration ended.1 ended.2 s.crashLog with
    | ok kept =>
      rw [result?_of_extract hending hextract] at h
      cases h
    | error fault =>
      -- Its files have no name, which ends the run.
      have hanswer : (p.step s e).answer = .error (.unnameable fault) := by
        rw [step_of_testEnd haction hself]
        unfold testEnd
        simp only [hrunning, hfinish, hextract]
      rw [GoesOn, hanswer] at hgoes
      rcases hgoes with hgoes | hgoes <;> cases hgoes

/-- **Every event of a run that goes on ends an attempt or is quiet.** -/
theorem quiet_or_ends (hgoes : p.GoesOn s e) :
    (ending? s e = none ∧ p.result? s e = none ∧ Quiet p s e (p.step s e).state) ∨
      ∃ ended kept w, p.result? s e = some kept ∧ Ends p s e (p.step s e).state ended kept w := by
  cases h : p.result? s e with
  | none => exact .inl ⟨ending?_eq_none_of_result? hgoes h, rfl, quiet_of_result? hgoes h⟩
  | some kept =>
    obtain ⟨ended, w, hends⟩ := ends_of_result? h
    exact .inr ⟨ended, kept, w, rfl, hends⟩

theorem Ends.result {ended : Attempt × List Screenshot} {kept : Attempt} {w : Extraction.Writing}
    (h : Ends p s e after ended kept w) : p.result? s e = some kept :=
  result?_of_extract h.ending h.extract

/-- No other event has to do with crashed browsers. -/
theorem Ends.crashLines {ended : Attempt × List Screenshot} {kept : Attempt}
    {w : Extraction.Writing} (h : Ends p s e after ended kept w) : p.crashLines e = [] := by
  obtain ⟨test, report, running, judged, haction, -⟩ := exists_of_ending? h.ending
  exact crashLines_of_ne (by simp [haction])

/-- No suite ends with an attempt. -/
theorem Ends.suiteEnds {ended : Attempt × List Screenshot} {kept : Attempt}
    {w : Extraction.Writing} (h : Ends p s e after ended kept w) : Processor.suiteEnds e = 0 := by
  obtain ⟨test, report, running, judged, haction, -⟩ := exists_of_ending? h.ending
  exact suiteEnds_of_ne (by simp [haction])

end WebTestRun.Processor
