import WebTestRun.File.Tree
import WebTestRun.Log
import WebTestRun.TestName

/-!
# The directory of web tests

Baselines lie beside the tests and, for versions of the browser that differ, in directories of
their own, which are searched first. A test under a suite falls back on the baseline of the test
itself.

* `Layout` — the directory and where baselines are searched.
* `Layout.expectedText` — the baseline of a test.
* `Layout.versionDir` — where a new baseline is written.
-/

set_option autoImplicit false

namespace WebTestRun

/-- Where web tests and their baselines lie. -/
structure Layout where
  /-- The directory of web tests. -/
  dir : String
  /-- The directories that are searched for baselines first, in order. -/
  searchPath : List String

namespace Layout

/-- The layout of a directory, with search directories relative to it. -/
def ofDir (dir : String) (searchPath : List String) : Layout :=
  ⟨dir, searchPath.map (Path.join dir)⟩

/-- Where a new baseline is written: where baselines are searched first. -/
def versionDir (l : Layout) : String := l.searchPath.head?.getD l.dir

/-- Where baselines are searched, in order. -/
def searchDirs (l : Layout) : List String := l.searchPath ++ [l.dir]

/-- The text of the first file of a list that can be read. A file that is not there goes without
saying. -/
def firstReadable (t : FileTree) (test : String) : List String → Option String × List Log
  | [] => (none, [])
  | path :: rest =>
    match t.readText path with
    | .ok text => (some text, [.debug .layout s!"found baseline for {test} at {path}"])
    | .error .notFound => firstReadable t test rest
    | .error fault =>
      let (found, logs) := firstReadable t test rest
      (found, .debug .layout s!"error reading baseline {path}: {fault.message}" :: logs)

/-- The name of the baseline of a test. -/
def baselineName (test : String) : Except TestName.Unnameable String :=
  TestName.outputPath test "-expected" ".txt"

/-- The baseline of the first of several tests that has one. -/
def firstBaseline (l : Layout) (t : FileTree) (test : String) :
    List String → Except TestName.Unnameable (Option String × List Log)
  | [] => .ok (none, [])
  | candidate :: rest => do
    let name ← baselineName candidate
    let (found, logs) := firstReadable t test (l.searchDirs.map fun dir ↦ Path.join dir name)
    if found.isSome then .ok (found, logs)
    else
      let (found, more) ← firstBaseline l t test rest
      .ok (found, logs ++ more)

/-- The names under which the baseline of a test is searched: its own, and for a test under a
suite that of the test itself. -/
def candidates (test : String) : List String :=
  match TestName.splitVirtual test with
  | (some _, base) => [test, base]
  | (none, _) => [test]

/-- The text of the baseline of a test. -/
def expectedText (l : Layout) (t : FileTree) (test : String) :
    Except TestName.Unnameable (Option String × List Log) :=
  l.firstBaseline t test (candidates test)

end Layout

end WebTestRun
