import WebTestRun.File.Overwrite
import WebTestRun.Run.Failure
import WebTestRun.Upload

/-!
# Runs

A run works on files and says things, until it ends or fails. Reading the events and consuming
them are two activities; what each of them says keeps its order.

* `Run.Surroundings` — what a run finds.
* `Run.Trace` — what it has done so far, `Run.Action` — what changes a trace and can fail.
* `Run.Sink` — a file that records for a results service are written to.
-/

set_option autoImplicit false

namespace WebTestRun.Run

/-- What asks a run to stop before the events end. -/
inductive Interrupt where
  | hangup | terminate | interrupt
  deriving DecidableEq, Repr

/-- The name of it. -/
def Interrupt.name : Interrupt → String
  | .hangup => "SIGHUP"
  | .terminate => "SIGTERM"
  | .interrupt => "interrupt"

/-- What a run finds. -/
structure Surroundings where
  /-- The files. -/
  files : FileTree
  /-- What comes over the standard input. -/
  standardInput : ByteArray := .empty
  /-- What the environment says. -/
  environment : List (String × String) := []
  /-- Whether log lines go to a terminal. -/
  terminal : Bool := false
  /-- The time at the end, in seconds. -/
  now : Int
  /-- What asks the run to stop once the events that have come are consumed. -/
  interrupt : Option Interrupt := none

/-- The activity that says something. -/
inductive Activity where
  /-- What the command asks for, in order. -/
  | main
  /-- The consumption of events. -/
  | consumer
  deriving DecidableEq, Repr

/-- What a run has done so far. -/
structure Trace where
  /-- The files. -/
  files : FileTree
  /-- What was said, the last line first. -/
  said : List (Activity × Log) := []

/-- What changes a trace and can fail. -/
abbrev Action (α : Type) := ExceptT Failure (StateM Trace) α

/-- Lines are said. -/
def say (a : Activity) (logs : List Log) : Action Unit :=
  modify fun t ↦ { t with said := (logs.map fun l ↦ (a, l)).reverse ++ t.said }

/-- The files as they are. -/
def files : Action FileTree := return (← get).files

/-- The files are replaced. -/
def setFiles (files : FileTree) : Action Unit := modify fun t ↦ { t with files }

/-- What was found, or a failure. -/
def orFail {ε α : Type} (failure : ε → Failure) : Except ε α → Action α
  | .ok a => return a
  | .error e => throw (failure e)

/-- How a run ends. -/
structure Outcome where
  /-- The files. -/
  files : FileTree
  /-- What was said. -/
  said : List (Activity × Log)
  /-- How it ends. -/
  result : Except Failure ExitCode

/-- The run of an action. A failure is the last thing that is said, with paths shown by the given
function. -/
def Action.outcome (a : Action ExitCode) (shown : String → String) (files : FileTree) : Outcome :=
  let (result, trace) := a.run.run { files }
  let last := match result with
    | .error failure => failure.logs shown
    | .ok _ => []
  ⟨trace.files, trace.said.reverse ++ last.map fun l ↦ (.main, l), result⟩

/-! ## Records for a results service -/

/-- A file that records are written to, one in a line. -/
structure Sink where
  /-- The path of the file. -/
  path : String
  /-- How many bytes were written to it. -/
  size : Nat := 0
  deriving DecidableEq, Repr

/-- A sink with a new file, if a path is given. -/
def Sink.create? : Option String → Action (Option Sink)
  | none => return none
  | some path => do
    setFiles (← orFail (.sinkNotCreated path) ((← files).write path .empty))
    return some { path }

/-- Records are written to a sink. Without one they are dropped. -/
def Sink.append? (records : List Json) : Option Sink → Action (Option Sink)
  | none => return none
  | some sink => do
    let bytes := (String.join (records.map Upload.line)).toUTF8
    match (← files).writeAt sink.path sink.size bytes with
    | .ok files => do
      setFiles files
      return some { sink with size := sink.size + bytes.size }
    | .error _ => return some sink

end WebTestRun.Run
