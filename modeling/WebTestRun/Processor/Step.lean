import WebTestRun.Processor.Basic
import WebTestRun.Text.Quoted
import WebTestRun.Upload

/-!
# Processing an event

An event changes the state of a run, may write files, and may add to what is uploaded and said. One
that does not fit the state is rejected and changes nothing. A status that is none ends the run.

* `Processor.step` — an event is processed.
* `Processor.Step` — what that does.
-/

set_option autoImplicit false

namespace WebTestRun.Processor

/-- Why an event does not fit the state. -/
inductive Rejection where
  | notStarted (test : String)
  | alreadyStarted (test : String)
  | duplicateSubtest (test subtest : String)
  | notInManifest (test : String)
  deriving DecidableEq, Repr

/-- What is said about it. -/
def Rejection.message : Rejection → String
  | .notStarted test => s!"test `{test}` was not started"
  | .alreadyStarted test => s!"test `{test}` was already started"
  | .duplicateSubtest test subtest =>
    s!"subtest `{subtest}` of test `{test}` already reported a status"
  | .notInManifest test => s!"test `{test}` not found in the WPT manifest"

/-- What keeps an event from being processed. -/
inductive Failure where
  | rejected (reason : Rejection)
  /-- The runner reports a status that is none. -/
  | fatal (status : Status.Unknown)
  /-- There is no name for the files of a test. -/
  | unnameable (test : TestName.Unnameable)
  deriving DecidableEq, Repr

/-- What the runner is told after an event. -/
inductive Response where
  /-- Go on. -/
  | proceed
  /-- No event follows. -/
  | shutdown
  /-- A budget is spent, so there is no point in going on. -/
  | exceeded (which : Exceeded)
  deriving DecidableEq, Repr

/-- What processing an event does. -/
structure Step where
  /-- The state after it. -/
  state : State
  /-- The answer. -/
  answer : Except Failure Response := .ok .proceed
  /-- What there is to say. -/
  logs : List Log := []
  /-- The records that are uploaded. -/
  uploads : List Json := []

/-- An event is rejected. -/
def reject (s : State) (reason : Rejection) (logs : List Log := []) : Step :=
  { state := s, answer := .error (.rejected reason), logs }

/-! ## What the runner expects -/

/-- Texts in increasing order, each once. -/
def sortedOnce (texts : List String) : List String :=
  Keyed.keys (Keyed.ofList (texts.map fun t ↦ (t, ())))

/-- What there is to say if the runner would take statuses that the expectations do not allow. -/
def disagreement (r : Attempt.Running) (grain : Grain) (accepted : List String) : List Log :=
  match r.kind.allowed grain r.expected with
  | .error _ => []
  | .ok allowed =>
    let others := accepted.filter fun name ↦
      (Named.ofName? (α := Status) name).any fun s ↦ !allowed.has s
    if others.isEmpty then []
    else
      [.debug .processor (s!"{r.name}: runner expected " ++ " ".intercalate (sortedOnce others) ++
        " but expectations allow " ++ " ".intercalate allowed.names)]

/-! ## Tests -/

/-- The baseline of a test, which only a test with subtests has. -/
def baselineFor (p : Processor) (s : State) (kind : TestKind) (name : String) :
    Except TestName.Unnameable (Option String × List Log) :=
  if kind.hasSubtests then p.extraction.layout.expectedText s.files name else .ok (none, [])

/-- A test starts. -/
def testStart (p : Processor) (s : State) (time : Int) (test : TestId) : Step :=
  let name := test.name
  if Keyed.has name s.running then reject s (.alreadyStarted name)
  else match p.lookup.resolve name with
    | .error e => reject s (.notInManifest e.test)
    | .ok (kind, filePath) =>
      let expectation := p.expectations.get name
      match p.baselineFor s kind name with
      | .error e => { state := s, answer := .error (.unnameable e) }
      | .ok (baselineText, logs) =>
        let running : Attempt.Running :=
          { name, kind, filePath, started := time, expected := expectation.verdicts, baselineText }
        { state :=
            { s with
              history := if expectation.slow then s.history.markSlow name else s.history
              running := Keyed.insert name running s.running }
          logs }

/-- A subtest reports a status. -/
def testStatus (s : State) (test : TestId) (subtest : String) (r : StatusReport) : Step :=
  let name := test.name
  match Keyed.find? name s.running with
  | none => reject s (.notStarted name)
  | some running =>
    let logs := disagreement running .subtest r.accepted
    match running.report subtest r.status r.message with
    | .error e => reject s (.duplicateSubtest running.name e.subtest) logs
    | .ok running => { state := { s with running := Keyed.insert name running s.running }, logs }

/-- What is said about an attempt that has ended. -/
def reported (iteration : Nat) (a : Attempt) : Log :=
  let ids := if a.artifacts.ids.isEmpty then "<none>" else ", ".intercalate a.artifacts.ids
  .debug .processor (s!"reported result for {a.name}, iteration {iteration} (actual: " ++
    Named.name a.verdict ++ ", expected: " ++ ", ".intercalate a.expected.names ++
    s!", artifacts: {ids})")

/-- An attempt counts against the budgets if its verdict is unexpected. -/
def charge (b : Budgets) (a : Attempt) : Budgets × Option Exceeded :=
  if a.unexpected then b.record a.verdict else (b, none)

/-- What is said when a budget is spent. -/
def exceededLog (e : Exceeded) : Log :=
  .error .processor s!"exiting early after exceeding threshold for unexpected {e.name}"

/-- An attempt has ended and its artifacts are written: it is counted, uploaded and kept. -/
def keep (p : Processor) (s : State) (a : Attempt) (logs : List Log) : Step :=
  let (budgets, exceeded) := charge s.budgets a
  { state :=
      { s with
        budgets
        tally := if s.iteration = 0 then s.tally.add a.verdict else s.tally
        history := s.history.push a }
    answer := .ok (match exceeded with
      | some e => .exceeded e
      | none => .proceed)
    logs := logs ++ (exceeded.map exceededLog).toList ++ [reported s.iteration a]
    uploads := [Upload.ofAttempt p.namePrefix p.extraction.store.outputRoot a.summary? a] }

/-- A test ends. -/
def testEnd (p : Processor) (s : State) (time : Int) (test : TestId) (r : StatusReport)
    (screenshots : List Screenshot) : Step :=
  let name := test.name
  match Keyed.find? name s.running with
  | none => reject s (.notStarted name)
  | some running =>
    let ended := { s with running := Keyed.erase name s.running }
    let logs := disagreement running .test r.accepted
    match running.finish r.status r.message time with
    | .error e => { state := ended, answer := .error (.fatal e), logs }
    | .ok (attempt, judged) =>
      let logs := logs ++ judged
      match p.extraction.extract s.files s.iteration attempt screenshots s.crashLog with
      | .error e => { state := ended, answer := .error (.unnameable e), logs }
      | .ok (attempt, w) =>
        p.keep { ended with files := w.files, crashLog := [] } attempt (logs ++ w.logs)

/-! ## Other events -/

/-- No event follows. -/
def shutdown (s : State) : Step where
  state := s
  answer := .ok .shutdown
  logs :=
    (if s.running.isEmpty then []
     else [.warning .processor ("some tests have unreported results:\n  " ++
       "\n  ".intercalate (Keyed.keys s.running))]) ++
    [.info .processor "stopping results stream"]

/-- Whether the output of a command is kept. -/
def keepsOutput (p : Processor) (command : String) : Bool :=
  p.crashLogExecutables.any fun executable ↦ Text.occursIn executable.toList command.toList

/-- A line of output: a text as it is, any other value as JSON. -/
def outputLine (data : Json) : String :=
  (match data with
    | .string s => s
    | other => other.written) ++ "\n"

/-- A process writes a line of output. -/
def processOutput (p : Processor) (s : State) (command : String) (data : Json) : Step :=
  if p.keepsOutput command then
    { state := { s with crashLog := s.crashLog ++ [outputLine data] } }
  else { state := s }

/-- A value that may be absent, as it is shown to a person who looks for errors. -/
def shownOption (shown : Option String) : String :=
  match shown with
  | some s => s!"Some({s})"
  | none => "None"

/-- What is said about an event that is none of those known here. -/
def unhandled (e : Event) : Log :=
  .warning .processor (s!"`{e.action.name}` event received, but not handled (time: {e.time}, " ++
    "thread: " ++ shownOption (e.thread.map Text.quoted) ++
    ", pid: " ++ shownOption (e.pid.map toString) ++
    ", source: " ++ shownOption (e.source.map Text.quoted) ++ ")")

/-! ## Events -/

/-- An event is processed. Tests that the runner reports itself are not followed. -/
def step (p : Processor) (s : State) (e : Event) : Step :=
  if e.action.test?.isSome && s.reportsItself then { state := s }
  else match e.action with
    | .suiteStart runInfo =>
      { state :=
          { s with runInfo := runInfo.foldl (fun all f ↦ Keyed.insert f.1 f.2 all) s.runInfo } }
    | .testStart test => p.testStart s e.time test
    | .testStatus test subtest report => testStatus s test subtest report
    | .testEnd test report screenshots => p.testEnd s e.time test report screenshots
    | .suiteEnd => { state := { s with iteration := s.iteration + 1 } }
    | .shutdown => shutdown s
    | .processOutput command data => p.processOutput s command data
    | .log | .addSubsuite => { state := s }
    | .unknown _ => { state := s, logs := [unhandled e] }

end WebTestRun.Processor
