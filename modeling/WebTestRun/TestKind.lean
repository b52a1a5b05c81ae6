import WebTestRun.Status

/-!
# Kinds of tests

The kind of a test decides whether it has subtests and which statuses the runner can report for
it.

* `TestKind` — the five kinds.
* `TestKind.legal` — the statuses of a kind, for the test or for a subtest.
* `TestKind.allowed` — those of them that mean one of several verdicts.
-/

set_option autoImplicit false

namespace WebTestRun

/-- The kind of a test. -/
inductive TestKind where
  | testharness | reftest | printReftest | wdspec | crashtest
  deriving DecidableEq, Repr, Inhabited

/-- Whether a status is about a test or about one of its subtests. -/
inductive Grain where
  | test | subtest
  deriving DecidableEq, Repr

namespace TestKind

instance : Named TestKind where
  all := [testharness, reftest, printReftest, wdspec, crashtest]
  mem_all a := by cases a <;> decide
  name
    | testharness => "testharness"
    | reftest => "reftest"
    | printReftest => "print-reftest"
    | wdspec => "wdspec"
    | crashtest => "crashtest"
  name_injective a b := by cases a <;> cases b <;> decide

/-- A text that names no kind. -/
structure Unknown where
  /-- The text. -/
  text : String
  deriving DecidableEq, Repr

/-- What is said about it. -/
def Unknown.message (e : Unknown) : String :=
  s!"unrecognized test type: {e.text}\n(known values: " ++ Named.names TestKind ++ ")"

/-- The kind of a name. -/
def parse (s : String) : Except Unknown TestKind :=
  match Named.ofName? s with
  | some v => .ok v
  | none => .error ⟨s⟩

/-- Whether tests of a kind report subtests. -/
def hasSubtests : TestKind → Bool
  | testharness | wdspec => true
  | reftest | printReftest | crashtest => false

/-- A kind of test that was asked about its subtests and has none. -/
structure NoSubtests where
  /-- The kind. -/
  kind : TestKind
  deriving DecidableEq, Repr

/-- What is said about it. -/
def NoSubtests.message (e : NoSubtests) : String :=
  s!"{Named.name e.kind} tests do not have subtests"

/-- The statuses that the runner can report. -/
def legal : TestKind → Grain → Except NoSubtests (List Status)
  | testharness, .test => .ok [.ok, .timeout, .error, .crash, .preconditionFailed]
  | testharness, .subtest => .ok [.fail, .pass, .timeout, .preconditionFailed, .notRun]
  | reftest, .test | printReftest, .test => .ok [.fail, .pass, .timeout, .error, .crash]
  | wdspec, .test => .ok [.ok, .timeout, .error, .crash]
  | wdspec, .subtest => .ok [.fail, .pass, .error]
  | crashtest, .test => .ok [.pass, .timeout, .error, .crash]
  | kind, .subtest => .error ⟨kind⟩

/-- The statuses that the runner can report and that mean an allowed verdict. -/
def allowed (kind : TestKind) (grain : Grain) (verdicts : Choice Verdict) :
    Except NoSubtests (Choice Status) :=
  (legal kind grain).map fun statuses ↦
    .ofList (statuses.filter fun s ↦ verdicts.has s.verdict)

end TestKind

end WebTestRun
