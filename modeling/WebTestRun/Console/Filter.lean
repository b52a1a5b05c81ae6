import WebTestRun.Invocation.Key
import WebTestRun.Log
import WebTestRun.Text.Cut

/-!
# Which log lines are shown

A filter is a list of directives. Each is about the lines whose topic starts with some text and
which carry some fields, and says how much such a line must matter to be shown. Of the directives
about a line the most specific one decides; a line that none is about is not shown.

* `Console.Directive` — a directive, `Directive.read` reads one.
* `Console.Filter` — a filter, `Filter.read` reads one, `Filter.shows` decides.
* `Console.topic`, `Console.fields` — what directives ask about.
-/

set_option autoImplicit false

namespace WebTestRun.Console

/-! ## Topics and fields -/

/-- What the lines of an origin are about, from the general to the particular. -/
def topic : Log.Origin → String
  | .attempt => "wpt_results_processor::result"
  | .layout => "wpt_results_processor::web_tests"
  | .config => "wpt_results_processor::config"
  | .artifacts => "wpt_results_processor::artifacts"
  | .report => "wpt_results_processor::report"
  | .processor => "wpt_results_processor::processor"
  | .stream => "wpt_results_processor::stream"
  | .runnerReport => "wpt_results_processor::wpt_report"
  | .input => "wpt_results::input"
  | .command => "wpt_results::dispatch"
  | .failure => "wpt_results::errors"
  | .reason => "wpt_results::no_heading"

/-- What the lines of an origin carry. -/
def fields : Log.Origin → List String
  | .stream => ["message", "action", "test", "time"]
  | _ => ["message"]

/-! ## Directives -/

/-- Which lines of a topic are shown. -/
structure Directive where
  /-- What the topic starts with, if that is asked. -/
  topic : Option String := none
  /-- What the line has to carry. -/
  fields : List String := []
  /-- The rank of the least important level that is shown; nothing is shown for zero. -/
  rank : Nat
  deriving DecidableEq, Repr

/-- Why a text is no filter. -/
inductive Filter.Fault where
  | manySigns
  | manyBrackets
  | openBrackets
  | level
  deriving DecidableEq, Repr

/-- What is said about it. -/
def Filter.Fault.message : Filter.Fault → String
  | .manySigns => "invalid filter directive: too many '=' in filter directive, expected 0 or 1"
  | .manyBrackets =>
    "invalid filter directive: too many '[\x7b' in filter directive, expected 0 or 1"
  | .openBrackets => "invalid filter directive: expected fields list to end with '\x7d]'"
  | .level => "error parsing level filter: expected one of \"off\", \"error\", \"warn\", " ++
    "\"info\", \"debug\", \"trace\", or a number 0-5"

/-- The words for levels with their ranks. -/
def levelWords : List (String × Nat) :=
  [("off", 0), ("error", 1), ("warn", 2), ("info", 3), ("debug", 4), ("trace", 5)]

/-- The rank of a level, which is a number or a word; no text at all is the word for errors. -/
def rank? (s : String) : Option Nat :=
  match (Invocation.natural? s).filter (· ≤ 5) with
  | some n => some n
  | none => if s.isEmpty then some 1 else Keyed.find? (Text.lower s) levelWords

/-- The parts of a text between occurrences of another. -/
def parts (separator s : String) : List String :=
  go s.length s.toList
where
  /-- The parts of the next characters, whose number is not larger than the first argument. -/
  go : Nat → List Char → List String
    | 0, rest => [String.ofList rest]
    | n + 1, rest =>
      match Text.cutOnce separator.toList rest with
      | none => [String.ofList rest]
      | some (before, after) => String.ofList before :: go n after

namespace Directive

/-- The topic and the fields that stand before an equality sign. -/
def subject (s : String) : Except Filter.Fault (String × List String) :=
  match parts "[\x7b" s with
  | [] | [_] => .ok (s, [])
  | [topic, rest] =>
    if Text.hasSuffix "\x7d]" rest then
      let names := String.ofList (rest.toList.take (rest.length - 2))
      .ok (topic, (parts "," names).filter fun name ↦ !name.isEmpty)
    else .error .openBrackets
  | _ => .error .manyBrackets

/-- The directive of a text: a topic and a level with an equality sign between them, or one of
both. A topic without a level shows everything. -/
def read (s : String) : Except Filter.Fault Directive :=
  match parts "=" s with
  | [] | [_] =>
    match rank? s with
    | some rank => .ok { rank }
    | none => .ok { topic := some s, rank := Log.Level.trace.rank }
  | [before, level] => do
    let (topic, fields) ← subject before
    match rank? level with
    | some rank => .ok { topic := some topic, fields, rank }
    | none => .error .level
  | _ => .error .manySigns

/-- Whether a directive is about the lines of an origin. -/
def covers (d : Directive) (o : Log.Origin) : Bool :=
  (d.topic.all fun topic ↦ Text.hasPrefix topic (Console.topic o)) &&
    d.fields.all fun name ↦ (Console.fields o).contains name

/-- Two directives ask the same. -/
def asksSame (a b : Directive) : Bool := a.topic == b.topic && a.fields == b.fields

/-- One directive about a line is more specific than another: its topic is longer, or it asks for
more fields, or their names are greater. -/
def outranks (a b : Directive) : Bool :=
  let length (d : Directive) : Nat := d.topic.elim 0 fun topic ↦ topic.utf8ByteSize + 1
  if length a ≠ length b then length b < length a
  else if a.fields.length ≠ b.fields.length then b.fields.length < a.fields.length
  else b.fields < a.fields

end Directive

/-! ## Filters -/

/-- Which lines are shown. -/
structure Filter where
  /-- The directives, none of which asks the same as another. -/
  directives : List Directive := []
  deriving DecidableEq, Repr

namespace Filter

/-- A directive more, in the place of one that asks the same. -/
def insert (f : Filter) (d : Directive) : Filter :=
  ⟨f.directives.filter (fun e ↦ !e.asksSame d) ++ [d]⟩

/-- The filter of a text: directives with commas between them. -/
def read (s : String) : Except Fault Filter := do
  let directives ← (parts "," s).mapM Directive.read
  return directives.foldl insert {}

/-- The filter that shows what matters as much as a level, whatever it is about. -/
def ofLevel (l : Log.Level) : Filter := ⟨[{ rank := l.rank }]⟩

/-- Of two directives the more specific one. -/
def choose (best : Option Directive) (d : Directive) : Option Directive :=
  match best with
  | some b => if d.outranks b then some d else some b
  | none => some d

/-- The directive that decides on the lines of an origin. -/
def decider? (f : Filter) (o : Log.Origin) : Option Directive :=
  (f.directives.filter (·.covers o)).foldl choose none

/-- Whether a line is shown. -/
def shows (f : Filter) (l : Log) : Bool :=
  (f.decider? l.origin).any fun d ↦ l.level.rank ≤ d.rank

end Filter

end WebTestRun.Console
