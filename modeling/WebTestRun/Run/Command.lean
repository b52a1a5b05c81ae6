import WebTestRun.Console.Lines
import WebTestRun.Invocation.Read
import WebTestRun.Run.Process

/-!
# Commands

* `Run.ofInvocation` — what a command line asks for is done.
* `Run.console` — how the log lines of it are shown.
-/

set_option autoImplicit false

namespace WebTestRun.Run

/-- The report of the runner is merged into the artifacts. -/
def merge (report : String) (s : Invocation.Setup) : Action ExitCode := do
  let config ← configured s
  let sink ← Sink.create? config.reporting.sinkOutput
  let dest ← publish report config.processing.artifactsDir sink
  say .main [.info .command s!"merged wptreport written to {dest}"]
  return .ok

/-- What a command does. -/
def command (w : Surroundings) : Invocation.Command → Action ExitCode
  | .process o => process w o
  | .merge report setup => merge report setup

/-- How the log lines of an invocation are shown. -/
def console (w : Surroundings) (i : Invocation) : Console :=
  .ofVoice w.environment w.terminal i.verbose i.color

/-- What a command line asks for is done. -/
def ofInvocation (w : Surroundings) (i : Invocation) : Outcome :=
  (command w i.command).outcome (Console.painted (console w i).colored Console.bold) w.files

namespace Outcome

/-- What the program exits with. -/
def number (o : Outcome) : UInt8 :=
  match o.result with
  | .ok code => code.number
  | .error failure => failure.number

/-- The log lines that are shown. -/
def shown (o : Outcome) (c : Console) : String := c.text (o.said.map (·.2))

/-- The log lines of an activity. -/
def logsOf (o : Outcome) (a : Activity) : List Log :=
  (o.said.filter fun line ↦ line.1 == a).map (·.2)

end Outcome

end WebTestRun.Run
