import WebTestRun.History
import WebTestRun.Log
import WebTestRun.Report.Basic
import WebTestRun.Tally
import WebTestRun.Upload

/-!
# The report on a run

What the attempts of a run come to: a leaf for each test, and the numbers.

* `Leaf.ofAttempts` — the leaf of a test.
* `Report.ofHistory` — the report.
-/

set_option autoImplicit false

namespace WebTestRun

namespace Leaf

/-- The verdicts of attempts, with blanks between them. -/
def actualText (attempts : List Attempt) : String :=
  " ".intercalate (attempts.map fun a ↦ Named.name a.verdict)

/-- Two attempts have different verdicts. -/
def isFlakyRun : List Attempt → Bool
  | [] => false
  | first :: rest => rest.any fun a ↦ a.verdict != first.verdict

/-- The paths of all attempts, under their kinds. A path that two attempts recorded occurs twice. -/
def allArtifacts (attempts : List Attempt) : List (String × List String) :=
  attempts.foldl (fun all a ↦ a.artifacts.entries.foldl (fun all e ↦
    Keyed.insert e.1 ((Keyed.find? e.1 all).getD [] ++ e.2) all) all) []

/-- The duration of an attempt, to a tenth of a second. -/
def roundedTime (a : Attempt) : Option Float :=
  let time := (a.seconds * 10.0).round / 10.0
  if time == 0.0 then none else some time

/-- The leaf of a test, given its first and its last attempt and all of them. -/
def ofAttempts (slow : Bool) (shard : Option Nat) (first last : Attempt)
    (attempts : List Attempt) : Leaf where
  expected := " ".intercalate first.expected.names
  actual := actualText attempts
  shard
  isFlaky := isFlakyRun attempts
  time := roundedTime first
  isSlow := slow
  isUnexpected := last.unexpected
  isRegression := last.isRegression
  imageStats := first.imageStats
  artifacts := allArtifacts attempts
  hasStderr := attempts.any (·.hasStderr)

end Leaf

namespace Report

/-- What goes into a report besides the history. -/
structure Context where
  /-- The verdicts of attempts before the first retry. -/
  tally : Tally
  /-- The run was cut short. -/
  interrupted : Bool
  /-- When the report is made, in seconds. -/
  secondsSinceEpoch : Int
  /-- The directory of web tests. -/
  layoutTestsDir : String
  /-- The name of the configuration that the tests ran under. -/
  flagName : Option String
  /-- Which part of the tests ran. -/
  shard : Option Nat

/-- The leaf of a test of a history. -/
def leaf? (h : History) (shard : Option Nat) (test : String) (attempts : List Attempt) :
    Option Leaf :=
  match attempts.head?, attempts.getLast? with
  | some first, some last => some (Leaf.ofAttempts (h.isSlow test) shard first last attempts)
  | _, _ => none

/-- The trie with the leaf of one more test. One that meets another is left out. -/
def addTest (h : History) (shard : Option Nat) (t : Trie) (test : String)
    (attempts : List Attempt) : Trie × List Log :=
  match leaf? h shard test attempts with
  | none => (t, [])
  | some leaf =>
    match t.insert test leaf with
    | .ok t => (t, [])
    | .error e => (t, [.warning .report s!"skipping {test} in the results trie: {e.message}"])

/-- The trie with the leaves of several tests more. -/
def addTests (h : History) (shard : Option Nat) (t : Trie) :
    List (String × List Attempt) → Trie × List Log
  | [] => (t, [])
  | (test, attempts) :: rest =>
    let (t, logs) := addTest h shard t test attempts
    let (t, more) := addTests h shard t rest
    (t, logs ++ more)

/-- The report on a history, and what there is to say about it. -/
def ofHistory (h : History) (c : Context) : Report × List Log :=
  let (tests, logs) := addTests h c.shard {} h.tests
  ({ version := currentVersion
     interrupted := c.interrupted
     pathDelimiter := "/"
     secondsSinceEpoch := c.secondsSinceEpoch
     layoutTestsDir := c.layoutTestsDir
     flagName := c.flagName
     counts := c.tally.counts
     passes := h.passes
     regressions := h.regressions
     skipped := c.tally.skip
     tests }, logs)

end Report

end WebTestRun
