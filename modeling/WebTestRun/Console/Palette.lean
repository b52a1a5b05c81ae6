import WebTestRun.Collection.Keyed
import WebTestRun.Invocation.Basic
import WebTestRun.Invocation.Key
import WebTestRun.Log

/-!
# Colors on the console

Words can be emphasised with escape sequences, where those are wanted and understood.

* `Console.painted` — a text between escape sequences.
* `Console.isColored` — whether escape sequences are written.
-/

set_option autoImplicit false

namespace WebTestRun.Console

/-- The character that starts an escape sequence. -/
def escape : String := "\x1b"

/-- A text with an emphasis, which is none unless it is colored. -/
def painted (colored : Bool) (emphasis text : String) : String :=
  if colored then escape ++ "[" ++ emphasis ++ "m" ++ text ++ escape ++ "[0m" else text

/-- Bold. -/
def bold : String := "1"

/-- The emphasis of the word for a level. -/
def emphasis : Log.Level → String
  | .error => "31;1"
  | .warning => "33;1"
  | .info | .debug => "1"
  | .trace => "2"

/-- Whether the environment asks for colors wherever lines go. -/
def colorIsForced (environment : List (String × String)) : Bool :=
  match Keyed.find? "FORCE_COLOR" environment with
  | some "true" | some "" => true
  | some "false" => false
  | some value => (Invocation.natural? value).getD 1 != 0
  | none => (Keyed.find? "CLICOLOR_FORCE" environment).any (· != "0")

/-- Whether the environment asks for no colors. -/
def colorIsDeclined (environment : List (String × String)) : Bool :=
  (Keyed.find? "NO_COLOR" environment).any (· != "0") ||
    Keyed.find? "TERM" environment == some "dumb"

/-- Whether lines are colored, given whether they go to a terminal. -/
def isColored (environment : List (String × String)) (terminal : Bool) : Color → Bool
  | .always => true
  | .never => false
  | .auto => colorIsForced environment || (terminal && !colorIsDeclined environment)

end WebTestRun.Console
