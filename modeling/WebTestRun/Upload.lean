import WebTestRun.Attempt.Basic
import WebTestRun.Decimal.Fixed
import WebTestRun.File.Path
import WebTestRun.Json.Written

/-!
# Records for a results service

What a run tells a results service while it goes on: a record for each attempt that has ended, and
one for artifacts that belong to the run as a whole. A record is a line of JSON.

* `Upload.ofAttempt`, `Upload.ofArtifacts` — the records.
* `Upload.line` — a record as a line.
-/

set_option autoImplicit false

namespace WebTestRun

/-- How long an attempt took, in seconds. -/
def Attempt.seconds (a : Attempt) : Float :=
  Float.ofNat (a.took / 1000) + Float.ofNat (a.took % 1000 * 1000000) / 1000000000.0

namespace Upload

/-- The word of the service for a verdict. -/
def verdictName : Verdict → String
  | .pass => "PASS"
  | .failure => "FAIL"
  | .crash => "CRASH"
  | .timeout => "ABORT"
  | .skip => "SKIP"

/-- A file of an artifact. -/
def fileRecord (path : String) : Json := .object [("filePath", .string path)]

/-- The key of a recorded path, given how many there are before it: the kind of the artifact, with
this number if it is not zero. -/
def key (id : String) (n : Nat) : String := if n = 0 then id else s!"{id}-{n}"

/-- The recorded paths with their keys. -/
def keyedPaths (m : Artifact.Map) : List (String × String) :=
  m.entries.flatMap fun e ↦ e.2.zipIdx.map fun path ↦ (key e.1 path.2, path.1)

/-- The artifacts of an attempt, whose paths start from a directory. -/
def artifactsRecord (root : String) (m : Artifact.Map) : Json :=
  .ofMembers ((keyedPaths m).map fun p ↦ (p.1, fileRecord (Path.join root p.2)))

/-- A label and its value. -/
def tag (key value : String) : Json := .object [("key", .string key), ("value", .string value)]

/-- Where the sources of all tests lie. -/
def location : String := "//third_party/blink/web_tests/"

/-- The duration of an attempt, in seconds with three places. -/
def durationText (a : Attempt) : String :=
  String.ofList ((Decimal.fixed? 3 a.seconds).getD []) ++ "s"

/-- The record of an attempt, given what names of tests start with, the directory that paths of
artifacts start from, and a summary. -/
def ofAttempt (namePrefix root : String) (summary : Option String) (a : Attempt) : Json :=
  .object [("testResult", .object (
    [("testId", .string (namePrefix ++ a.name)),
     ("status", .string (verdictName a.verdict)),
     ("expected", .bool !a.unexpected),
     ("duration", .string (durationText a))] ++
    (summary.map fun s ↦ ("summaryHtml", Json.string s)).toList ++
    [("artifacts", artifactsRecord root a.artifacts),
     ("tags", .array [tag "test_name" a.name, tag "web_tests_test_type" (Named.name a.kind)]),
     ("testMetadata", .object
       [("name", .string a.name),
        ("location", .object [("fileName", .string (location ++ a.filePath))])])]))]

/-- The record of artifacts of the whole run, paths under their names. -/
def ofArtifacts (artifacts : List (String × String)) : Json :=
  .object [("artifacts", .ofMembers (artifacts.map fun a ↦ (a.1, fileRecord a.2)))]

/-- A record as a line. -/
def line (record : Json) : String := record.written ++ "\n"

end Upload

end WebTestRun
