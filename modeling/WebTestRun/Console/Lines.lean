import WebTestRun.Console.Filter
import WebTestRun.Console.Palette

/-!
# Log lines on the console

A line starts with the word for its level, unless it is a reason that follows a failure.

* `Console` — how lines are shown, `Console.ofInvocation` from what was asked for.
* `Console.text` — the lines that are shown.
-/

set_option autoImplicit false

namespace WebTestRun

/-- How log lines are shown. -/
structure Console where
  /-- With escape sequences. -/
  colored : Bool
  /-- Which lines. -/
  filter : Console.Filter
  /-- What is said about the filter itself. -/
  remark : String := ""
  deriving DecidableEq, Repr

namespace Console

/-- The text of a line. -/
def line (colored : Bool) (l : Log) : String :=
  let heading := match l.origin with
    | .reason => ""
    | _ => painted colored (emphasis l.level) l.level.name ++ ": "
  heading ++ l.message ++ "\n"

/-- The variable that says which lines are shown. -/
def filterVariable : String := "WPT_RESULTS_LOG"

/-- What is said about a text that is no filter. -/
def unfitRemark (text : String) (fault : Filter.Fault) : String :=
  s!"warning: ignoring invalid {filterVariable} `{text}`: {fault.message}\n"

/-- How log lines are shown that go to a terminal or not. -/
def ofVoice (environment : List (String × String)) (terminal verbose : Bool) (color : Color) :
    Console :=
  let colored := isColored environment terminal color
  let standard := Filter.ofLevel (if verbose then .debug else .info)
  match (Keyed.find? filterVariable environment).getD "" with
  | "" => { colored, filter := standard }
  | text => match Filter.read text with
    | .ok filter => { colored, filter }
    | .error fault => { colored, filter := standard, remark := unfitRemark text fault }

/-- The lines that are shown. -/
def text (c : Console) (logs : List Log) : String :=
  c.remark ++ String.join ((logs.filter c.filter.shows).map (line c.colored))

end Console

end WebTestRun
