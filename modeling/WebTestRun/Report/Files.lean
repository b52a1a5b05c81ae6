import WebTestRun.File.Tree
import WebTestRun.Report.Basic

/-!
# The files of a report

A report is written into the directory of artifacts: as it is, wrapped into a call so that a page
can load it, and once more for the regressions alone.

* `Report.write` — the file tree with these files.
* `Report.WriteFault` — what can go wrong.
-/

set_option autoImplicit false

namespace WebTestRun

/-- What can go wrong when the files of a report are written. -/
inductive Report.WriteFault where
  | createDir (path : String) (fault : FileTree.Fault)
  | write (path : String) (fault : FileTree.Fault)
  deriving DecidableEq, Repr

/-- What is said about it. -/
def Report.WriteFault.message : Report.WriteFault → String
  | .createDir path _ => s!"error creating directory `{path}`"
  | .write path _ => s!"error writing report to `{path}`"

/-- What lies behind it. -/
def Report.WriteFault.fault : Report.WriteFault → FileTree.Fault
  | .createDir _ fault | .write _ fault => fault

namespace FileTree

/-- The tree with a text at a path. -/
def writeText (t : FileTree) (path text : String) : Except Fault FileTree :=
  t.write path text.toUTF8

end FileTree

namespace Report

/-- The tree with directories for a path. -/
def makeDirs (t : FileTree) (path : String) : Except WriteFault FileTree :=
  (t.createDirs path).mapError (.createDir path)

/-- The tree with the text of a file of a report. -/
def writeFile (t : FileTree) (path text : String) : Except WriteFault FileTree :=
  (t.writeText path text).mapError (.write path)

/-- The files of a report in a directory, with their texts, in the order in which they are
written. The text of the report is also written to a second path if one is given. -/
def files (r : Report) (dir : String) (second : Option String) : List (String × String) :=
  [(Path.join dir "full_results.json", r.text)] ++
  (second.map fun path ↦ (path, r.text)).toList ++
  [(Path.join dir "full_results_jsonp.js", "ADD_FULL_RESULTS(" ++ r.text ++ ");"),
   (Path.join dir "failing_results.json", "ADD_RESULTS(" ++ r.failing.text ++ ");")]

/-- The tree with several files. What was written before something goes wrong stays. -/
def writeAll (t : FileTree) : List (String × String) → FileTree × Except WriteFault Unit
  | [] => (t, .ok ())
  | (path, text) :: rest =>
    match writeFile t path text with
    | .ok t => writeAll t rest
    | .error fault => (t, .error fault)

/-- The tree with the files of a report in a directory, which is created if it is not there. -/
def write (r : Report) (t : FileTree) (dir : String) (second : Option String) :
    FileTree × Except WriteFault Unit :=
  match makeDirs t dir with
  | .ok t => writeAll t (r.files dir second)
  | .error fault => (t, .error fault)

end Report

end WebTestRun
