import WebTestRun.Text.Blank
import WebTestRun.Text.Cut
import WebTestRun.Text.Line
import WebTestRun.Verdict

/-!
# Lines of an expectations file

A line declares which verdicts are expected of a test: the bugs it is about, the platforms it is
for, the test, and the verdicts. What follows a blank and a hash sign is a comment.

```text
bug … [ tag … ] test [ result … ]
```

A test that ends in a star stands for all tests that start with the text before it.

* `Expectation` — verdicts, and whether the test is slow.
* `Expectation.Line` — what a line declares.
* `Expectation.Line.read` — the line of a text.
-/

set_option autoImplicit false

namespace WebTestRun

/-- What is expected of a test. -/
structure Expectation where
  /-- The verdicts that are expected. -/
  verdicts : Choice Verdict
  /-- Whether the test is known to be slow. -/
  slow : Bool
  deriving DecidableEq

namespace Expectation

/-- Nothing was declared. -/
def none : Expectation := ⟨.none, false⟩

/-- What two declarations together expect. -/
def merge (a b : Expectation) : Expectation := ⟨a.verdicts.union b.verdicts, a.slow || b.slow⟩

/-- A test of which no verdict is expected is expected to pass. -/
def settled (e : Expectation) : Expectation :=
  if e.verdicts.isEmpty then ⟨.ofList [.pass], e.slow⟩ else e

/-! ## Faults -/

/-- Why a line declares nothing. -/
inductive Fault where
  | openTags
  | missingTest
  /-- There is a bracket where a test should be. -/
  | notTest (word : String)
  /-- A star stands before the end of a test. -/
  | innerStar (test : String)
  | missingResults (test : String)
  | openResults
  | unknownResult (word : String)
  /-- There is a word after the results. -/
  | extraWord (word : String)
  deriving DecidableEq, Repr

/-- What is said about a fault. -/
def Fault.message : Fault → String
  | .openTags => "unterminated tag list"
  | .missingTest => "missing test name"
  | .notTest word => s!"expected a test name, found `{word}`"
  | .innerStar test => s!"`{test}`: globs may only end in `*`"
  | .missingResults test => s!"`{test}`: missing result list"
  | .openResults => "unterminated result list"
  | .unknownResult word => s!"unknown result `{word}`"
  | .extraWord word => s!"unexpected token `{word}` after results"

/-! ## Reading a line -/

/-- What a line declares. -/
structure Line where
  /-- The platforms that it is for, all of which must apply. -/
  tags : List String
  /-- The test, or the text before the star. -/
  test : String
  /-- Whether a star follows. -/
  glob : Bool
  /-- What is expected. -/
  expectation : Expectation
  deriving DecidableEq

/-- What the words for bugs start with. -/
def bugPrefixes : List String := ["crbug.com/", "skbug.com/", "webkit.org/b/", "Bug("]

/-- Whether a word is one for a bug. -/
def isBug (word : String) : Bool := bugPrefixes.any fun p ↦ Text.hasPrefix p word

/-- The words up to a closing bracket, and those after it. -/
def bracketed? (words : List String) : Option (List String × List String) :=
  match words.dropWhile (· ≠ "]") with
  | [] => .none
  | _ :: rest => some (words.takeWhile (· ≠ "]"), rest)

/-- The tags in front of a line, if it starts with an opening bracket. -/
def readTags : List String → Except Fault (List String × List String)
  | "[" :: rest =>
    match bracketed? rest with
    | some r => .ok r
    | .none => .error .openTags
  | words => .ok ([], words)

/-- The test of a word, and whether a star follows it. -/
def readTest (word : String) : Except Fault (String × Bool) :=
  if Text.hasPrefix "[" word then .error (.notTest word)
  else match Text.cutOnce ['*'] word.toList with
    | .none => .ok (word, false)
    | some (before, after) =>
      if after.isEmpty then .ok (String.ofList before, true) else .error (.innerStar word)

/-- What one result adds to an expectation. -/
def addResult (e : Expectation) (word : String) : Except Fault Expectation :=
  match word with
  | "Slow" => .ok { e with slow := true }
  | "Pass" => .ok { e with verdicts := e.verdicts.insert .pass }
  | "Failure" => .ok { e with verdicts := e.verdicts.insert .failure }
  | "Crash" => .ok { e with verdicts := e.verdicts.insert .crash }
  | "Timeout" => .ok { e with verdicts := e.verdicts.insert .timeout }
  | "Skip" => .ok { e with verdicts := e.verdicts.insert .skip }
  | word => .error (.unknownResult word)

/-- The results at the end of a line, after a test. -/
def readResults (test : String) : List String → Except Fault Expectation
  | "[" :: rest =>
    match bracketed? rest with
    | .none => .error .openResults
    | some (results, after) => do
      let e ← results.foldlM addResult none
      match after with
      | [] => .ok e
      | extra :: _ => .error (.extraWord extra)
  | _ => .error (.missingResults test)

/-- The line of its words. -/
def Line.ofWords (words : List String) : Except Fault Line := do
  let (tags, words) ← readTags (words.dropWhile isBug)
  match words with
  | [] => .error .missingTest
  | word :: rest =>
    let (test, glob) ← readTest word
    return ⟨tags, test, glob, ← readResults word rest⟩

/-- A line without its comment and without blanks around it. -/
def content (line : List Char) : List Char :=
  Text.trim (((Text.cutOnce [' ', '#'] line).map (·.1)).getD line)

/-- Whether a line without its comment says nothing. -/
def saysNothing (content : List Char) : Bool := content.isEmpty || content.head? == some '#'

/-- The line of its content. -/
def Line.read (content : List Char) : Except Fault Line :=
  Line.ofWords ((Text.words content).map String.ofList)

/-- Whether a line applies where the given tags do. Upper and lower case of the ASCII letters are
the same. -/
def Line.appliesTo (platform : List String) (l : Line) : Bool :=
  l.tags.all fun tag ↦ platform.any (Text.equalsIgnoringCase tag)

end Expectation

end WebTestRun
