import WebTestRun.Collection.Keyed
import WebTestRun.Invocation.Scan

/-!
# Reading a command line

A command line is the options of the program, the name of a command, and what is given to the
command. How the program talks can be said before or after the name; what stands nearest to the
end counts, then what the environment says.

* `Invocation.read` — what a command line asks for.
-/

set_option autoImplicit false

namespace WebTestRun.Invocation

/-- What the environment says, under the names of variables. -/
abbrev Environment := List (String × String)

/-- How the program talks, as far as that was said. -/
structure Voice where
  /-- Detail is logged. -/
  verbose : Option Bool := none
  /-- When log lines are colored. -/
  color : Option Color := none
  deriving DecidableEq, Repr

/-- The variable that asks for detail. -/
def verboseVariable : String := "WPT_RESULTS_VERBOSE"

/-- The variable that says when log lines are colored. -/
def colorVariable : String := "WPT_RESULTS_COLOR"

/-- What a variable says, unless it was said already. -/
def sayUnless {α : Type} (env : Environment) (name : String) (read : String → Except Usage α)
    (said : Option α) : Except Usage (Option α) :=
  match said, Keyed.find? name env with
  | none, some value => (read value).map some
  | _, _ => .ok none

/-- What the environment says about what was not given. -/
def fromEnvironment (env : Environment) (g : Given) : Except Usage Voice := do
  return {
    verbose := ← sayUnless env verboseVariable truthOf g.verbose
    color := ← sayUnless env colorVariable colorOf g.color }

/-- The invocation of a command, given what was said before its name and after it. -/
def speaking (command : Command) (top sub : Given) (environment : Voice) : Invocation where
  verbose := ((sub.verbose.orElse fun _ ↦ top.verbose).orElse
    fun _ ↦ environment.verbose).getD false
  color := ((sub.color.orElse fun _ ↦ top.color).orElse fun _ ↦ environment.color).getD .auto
  command

/-- What is given to a command, and what the environment adds. -/
def readPlace (env : Environment) (p : Place) (arguments : List String) :
    Except Usage (Given × Voice) := do
  let s ← arguments.foldlM (Scan.step p) {}
  let s ← s.settle
  let voice ← fromEnvironment env s.given
  if p.hasOperand && s.given.operand.isNone then .error .missingArgument
  else .ok (s.given, voice)

/-- The command with a name. -/
def place? : String → Option Place
  | "process" => some .process
  | "merge-wpt-report" => some .merge
  | _ => none

/-- What is to be done at a place. -/
def Place.command (p : Place) (g : Given) : Command :=
  match p with
  | .merge => .merge (g.operand.getD "") g.setup
  | .top | .process => .process g.processOptions

/-- A command is asked for, after what came before its name. -/
def readCommand (env : Environment) (top : Scan) (p : Place) (arguments : List String) :
    Except Usage Invocation := do
  let (sub, subVoice) ← readPlace env p arguments
  let top ← top.settle
  let topVoice ← fromEnvironment env top.given
  let voice : Voice :=
    ⟨subVoice.verbose.orElse fun _ ↦ topVoice.verbose,
     subVoice.color.orElse fun _ ↦ topVoice.color⟩
  return speaking (p.command sub) top.given sub voice

/-- Whether help can be had on a list of names. -/
def helpOn : List String → Usage
  | [] => .help
  | [name] => if name = "help" || (place? name).isSome then .help else .unknownCommand
  | _ => .unknownCommand

/-- No command is asked for. -/
def readNothing (env : Environment) (top : Scan) : Except Usage Invocation := do
  let top ← top.settle
  let voice ← fromEnvironment env top.given
  if top.given = {} && voice = {} then .error .nothingGiven else .error .noCommand

/-- The words from where the scanner is. -/
def readFrom (env : Environment) (top : Scan) : List String → Except Usage Invocation
  | [] => readNothing env top
  | w :: rest =>
    let next : Except Usage Invocation := do readFrom env (← top.step .top w) rest
    if top.plain || top.awaits then
      if top.plain && (w = "help" || (place? w).isSome) then .error .unknownArgument else next
    else if w = "help" then .error (helpOn rest)
    else match place? w with
      | some p => readCommand env top p rest
      | none => next

/-- What a command line asks for. -/
def read (env : Environment) (arguments : List String) : Except Usage Invocation :=
  readFrom env {} arguments

end WebTestRun.Invocation
