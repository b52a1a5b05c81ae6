/-!
# Log lines

What a run tells its operator, apart from its results. Log lines are values: every step that has
something to say returns its lines in order.

* `Log` — a level, an origin and a message.
-/

set_option autoImplicit false

namespace WebTestRun

/-- How much a log line matters, the most important first. -/
inductive Log.Level where
  | error | warning | info | debug | trace
  deriving DecidableEq, Repr

/-- The part of a run that a log line comes from. -/
inductive Log.Origin where
  | attempt | layout | config | artifacts | report | processor | stream | runnerReport
  | input | command | failure
  /-- A reason behind a failure that was mentioned before. -/
  | reason
  deriving DecidableEq, Repr

/-- A log line. -/
structure Log where
  /-- How much it matters. -/
  level : Log.Level
  /-- Where it comes from. -/
  origin : Log.Origin
  /-- What it says. -/
  message : String
  deriving DecidableEq, Repr

namespace Log

/-- The word for a level. -/
def Level.name : Level → String
  | .error => "error"
  | .warning => "warning"
  | .info => "info"
  | .debug => "debug"
  | .trace => "trace"

/-- The place of a level, the most important first. -/
def Level.rank : Level → Nat
  | .error => 1
  | .warning => 2
  | .info => 3
  | .debug => 4
  | .trace => 5

/-- A line with its level. -/
def text (l : Log) : String := l.level.name ++ ": " ++ l.message

/-- Something went wrong and the run cannot go on as it was asked to. -/
def error (origin : Origin) (message : String) : Log := ⟨.error, origin, message⟩

/-- Something is not as it should be. -/
def warning (origin : Origin) (message : String) : Log := ⟨.warning, origin, message⟩

/-- Progress. -/
def info (origin : Origin) (message : String) : Log := ⟨.info, origin, message⟩

/-- Detail. -/
def debug (origin : Origin) (message : String) : Log := ⟨.debug, origin, message⟩

end Log

end WebTestRun
