import WebTestRun.Collection.Keyed
import WebTestRun.Expectation.Line
import WebTestRun.TestName

/-!
# Tables of expectations

The lines of any number of files that apply to one platform. Lines for the same test, and lines
for the same beginning of names, are merged. A line for the test itself counts more than one for
a beginning of its name, and a longer beginning more than a shorter one. A test under a suite
for which nothing is declared falls back on the test itself.

* `Expectations` — the table.
* `Expectations.addText` — the lines of a file more.
* `Expectations.get` — what is expected of a test.
-/

set_option autoImplicit false

namespace WebTestRun

/-- What the lines in force declare. -/
structure Expectations where
  /-- Expectations of single tests, under their names. -/
  tests : List (String × Expectation) := []
  /-- Expectations of all tests whose names start with a text, under that text. -/
  globs : List (String × Expectation) := []

namespace Expectations

/-- A line that declares nothing where it should. -/
structure Error where
  /-- Its number, counted from one. -/
  line : Nat
  /-- What is wrong with it. -/
  fault : Expectation.Fault
  deriving DecidableEq, Repr

/-- What is said about it. -/
def Error.message (e : Error) : String := s!"line {e.line}: {e.fault.message}"

/-- Entries with an expectation merged into the one under a key. -/
def mergeAt (key : String) (e : Expectation) (entries : List (String × Expectation)) :
    List (String × Expectation) :=
  Keyed.put key (((Keyed.find? key entries).getD .none).merge e) entries

/-- The table with one line more. -/
def addLine (t : Expectations) (l : Expectation.Line) : Expectations :=
  if l.glob then { t with globs := mergeAt l.test l.expectation t.globs }
  else { t with tests := mergeAt l.test l.expectation t.tests }

/-- The table with one line of a file more, if the line applies to the platform. -/
def readLine (platform : List String) (t : Expectations) (content : List Char) :
    Except Expectation.Fault Expectations :=
  if Expectation.saysNothing content then .ok t
  else (Expectation.Line.read content).map fun l ↦
    if l.appliesTo platform then t.addLine l else t

/-- The table with numbered lines more. The first line that is wrong is reported, and the table
holds the lines before it. -/
def addLines (platform : List String) (t : Expectations) :
    List (Nat × List Char) → Expectations × Except Error Unit
  | [] => (t, .ok ())
  | (number, line) :: rest =>
    match readLine platform t (Expectation.content line) with
    | .ok t => addLines platform t rest
    | .error fault => (t, .error ⟨number, fault⟩)

/-- The table with the lines of a file more. -/
def addText (platform : List String) (t : Expectations) (text : String) :
    Expectations × Except Error Unit :=
  t.addLines platform (Text.numberedLines text.toList)

/-- The entry of the longest beginning of a name. -/
def longestGlob? (test : String) (globs : List (String × Expectation)) :
    Option (String × Expectation) :=
  (globs.filter fun g ↦ Text.hasPrefix g.1 test).foldl (fun best g ↦
    match best with
    | none => some g
    | some b => if b.1.utf8ByteSize ≤ g.1.utf8ByteSize then some g else some b) none

/-- What is declared for a name. -/
def look? (t : Expectations) (test : String) : Option Expectation :=
  match Keyed.find? test t.tests with
  | some e => some e
  | none => (longestGlob? test t.globs).map (·.2)

/-- What is declared for a test, under its own name or, for a test under a suite, under the name
of the test itself. -/
def declared? (t : Expectations) (test : String) : Option Expectation :=
  match t.look? test with
  | some e => some e
  | none =>
    match TestName.splitVirtual test with
    | (some _, base) => t.look? base
    | (none, _) => none

/-- What is expected of a test. -/
def get (t : Expectations) (test : String) : Expectation :=
  ((t.declared? test).getD .none).settled

end Expectations

end WebTestRun
