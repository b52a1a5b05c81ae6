import WebTestRun.Invocation.Key

/-!
# Help

What is printed when nothing is done: help, the version, or what is wrong with the command line.

* `Usage.text` — what is printed.
* `Usage.number` — what the program exits with.
-/

set_option autoImplicit false

namespace WebTestRun.Invocation

/-- The name of the program. -/
def programName : String := "wpt-results"

/-- The version of the program. -/
def versionNumber : String := "0.1.0"

/-- An option as help shows it. -/
def Key.shown (k : Key) : String :=
  let name := "--" ++ k.long?.getD ""
  let letter := k.letter?.elim "    " fun c ↦ String.ofList ['-', c, ',', ' ']
  "  " ++ letter ++ name ++ (if k.takesValue then " <VALUE>" else "") ++ "\n"

/-- What can be given at a place. -/
def Place.help (p : Place) : String := String.join (p.keys.map Key.shown)

/-- Help on the program. -/
def helpText : String :=
  "Turns a web-platform-tests event stream into Chromium web test results.\n\n" ++
  "Usage: " ++ programName ++ " [OPTIONS] <COMMAND>\n\nOptions:\n" ++ Place.top.help ++
  "\n" ++ programName ++ " process [OPTIONS]\n" ++ Place.process.help ++
  "\n" ++ programName ++ " merge-wpt-report [OPTIONS] <REPORT>\n" ++ Place.merge.help

namespace Usage

/-- Whether this is what was asked for. -/
def isRequest : Usage → Bool
  | .help | .version => true
  | _ => false

/-- What is wrong with the command line. -/
def complaint : Usage → String
  | .help | .version | .nothingGiven => ""
  | .noCommand => "a command is missing"
  | .unknownArgument => "an argument was not expected"
  | .unknownCommand => "there is no such command"
  | .missingArgument => "the report is missing"
  | .unfitValue => "the value of an option does not fit"
  | .invalidValue => "the value of an option is missing or none of the choices"
  | .repeated => "an option cannot be used twice"
  | .needlessValue => "a value was given to an option that takes none"

/-- What is printed. -/
def text : Usage → String
  | .help | .nothingGiven => helpText
  | .version => programName ++ " " ++ versionNumber ++ "\n"
  | u => "error: " ++ u.complaint ++ "\n\nFor more information, try '--help'.\n"

/-- What the program exits with. -/
def number (u : Usage) : UInt8 := if u.isRequest then 0 else 2

end Usage

end WebTestRun.Invocation
