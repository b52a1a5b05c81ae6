import WebTestRun.Decimal.Width
import WebTestRun.Event.Basic
import WebTestRun.Json.Decode

/-!
# Reading an event

An event is an object of JSON. Five members say which action it is and where it comes from, each
given at most once; all other members belong to the action, which picks those that it knows.

* `Event.read` — the event of a line.
* `Event.Fault` — why a line is no event.
-/

set_option autoImplicit false

namespace WebTestRun.Event

/-- Why a line is no event. -/
inductive Fault where
  /-- It is no object, or the members that every event has are wrong. -/
  | notEvent
  /-- The members that belong to its action are wrong. -/
  | malformed (action : String)
  deriving DecidableEq, Repr

/-- What is said about a fault. -/
def Fault.message : Fault → String
  | .notEvent => "event is not valid JSON"
  | .malformed action => s!"malformed `{action}` event"

/-! ## The members that every event has -/

/-- An event before its action is known in full. -/
structure Raw where
  /-- The name of the action. -/
  action : String
  /-- When it happened. -/
  time : Int
  /-- The thread. -/
  thread : Option String
  /-- The process. -/
  pid : Option Nat
  /-- The log. -/
  source : Option String
  /-- All other members. -/
  others : List (String × Json)

/-- The names of the members that every event has. -/
def commonNames : List String := ["action", "time", "thread", "pid", "source"]

/-- The number of a process fits 32 bits. -/
def pid? (d : Document) : Option Nat := d.natural?.filter fun n ↦ decide (n < Width.limit32)

/-- The event of a document, before its action is known in full. -/
def Raw.ofDocument? (d : Document) : Option Raw :=
  match d with
  | .object _ => do
    let fields ← d.fields? commonNames
    let whole ← d.json?
    return {
      action := ← (← fields.required? "action").text?
      time := ← fields.valueOr "time" 0 Document.signed?
      thread := ← fields.valueOr "thread" none (Document.orNull? Document.text?)
      pid := ← fields.valueOr "pid" none (Document.orNull? pid?)
      source := ← fields.valueOr "source" none (Document.orNull? Document.text?)
      others := match whole with
        | .object members => members.filter fun m ↦ !commonNames.contains m.1
        | _ => [] }
  | _ => none

/-! ## The members of an action -/

/-- The test that the members name. -/
def testId? (f : Fields) : Option TestId := do
  return ⟨← (← f.required? "test").text?,
    ← f.valueOr "subsuite" none (Document.orNull? Document.text?)⟩

/-- The status that the members report. -/
def report? (f : Fields) : Option StatusReport := do
  return {
    status := ← (← f.required? "status").text?
    expected := ← f.valueOr "expected" none (Document.orNull? Document.text?)
    intermittent := ← f.valueOr "known_intermittent" [] (Document.list? Document.text?)
    message := ← f.valueOr "message" none (Document.orNull? Document.text?) }

/-- What an element of the list of screenshots tells. -/
def screenshot? (d : Document) : Option Screenshot :=
  match d with
  | .object _ => do
    let f ← d.fields? ["url", "screenshot"]
    return .image (← (← f.required? "url").text?) (← (← f.required? "screenshot").text?)
  | d => d.text?.map .relation

/-- The screenshots among the additional data of a test that ended. -/
def screenshots? (extra : Document) : Option (List Screenshot) := do
  let f ← extra.fields? ["reftest_screenshots"]
  f.valueOr "reftest_screenshots" [] fun d ↦
    (d.orNull? (Document.list? screenshot?)).map fun l ↦ l.getD []

/-- The facts about a run. -/
def runInfo? (d : Document) : Option (List (String × Json)) :=
  match d with
  | .null => some []
  | .object _ =>
    match d.json? with
    | some (.object members) => some members
    | _ => none
  | _ => none

/-- The members that belong to some action. -/
def actionNames : List String :=
  ["run_info", "test", "subsuite", "subtest", "status", "expected", "known_intermittent",
   "message", "extra", "command", "data"]

/-- The action of a name with its members. -/
def action? (name : String) (members : List (String × Json)) : Option Action := do
  let f ← (Document.ofJson (.object members)).fields? actionNames
  match name with
  | "suite_start" => return .suiteStart (← f.valueOr "run_info" [] runInfo?)
  | "test_start" => return .testStart (← testId? f)
  | "test_status" =>
    return .testStatus (← testId? f) (← (← f.required? "subtest").text?) (← report? f)
  | "test_end" => return .testEnd (← testId? f) (← report? f) (← f.valueOr "extra" [] screenshots?)
  | "suite_end" => return .suiteEnd
  | "shutdown" => return .shutdown
  | "process_output" =>
    return .processOutput (← f.valueOr "command" "" Document.text?)
      (← f.valueOr "data" .null Document.json?)
  | "log" => return .log
  | "add_subsuite" => return .addSubsuite
  | _ => return .unknown name

/-- The event of a line. -/
def read (line : String) : Except Fault Event :=
  match (Document.ofText? line).bind Raw.ofDocument? with
  | none => .error .notEvent
  | some raw =>
    match action? raw.action raw.others with
    | none => .error (.malformed raw.action)
    | some action => .ok { raw with action }

end WebTestRun.Event
