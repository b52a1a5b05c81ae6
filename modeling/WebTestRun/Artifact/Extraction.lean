import WebTestRun.Artifact.Store
import WebTestRun.Attempt.Basic
import WebTestRun.Bytes.Base64
import WebTestRun.Diff.Page
import WebTestRun.Diff.Unified
import WebTestRun.Event.Basic
import WebTestRun.Image.Compared
import WebTestRun.Layout
import WebTestRun.Text.Blank

/-!
# The artifacts of an attempt

An attempt that failed leaves what was observed and, if there is a baseline, how it differs, and
its screenshots. Any attempt leaves its diagnostic messages and the output of a browser that
crashed. Where baselines are reset, what was observed becomes the new baseline.

* `Extraction` — where artifacts and baselines go.
* `Extraction.extract` — the artifacts of an attempt.
-/

set_option autoImplicit false

namespace WebTestRun

/-- Where artifacts and baselines go. -/
structure Extraction where
  /-- The directory of artifacts. -/
  store : Artifact.Store
  /-- The directory of web tests. -/
  layout : Layout
  /-- Whether baselines are replaced by what was observed. -/
  resets : Bool

namespace Extraction

/-- What has been written for an attempt so far. -/
structure Writing where
  /-- The files. -/
  files : FileTree
  /-- What was recorded. -/
  recorded : Artifact.Map := {}
  /-- What there is to say. -/
  logs : List Log := []

/-- One line more to say. -/
def Writing.say (w : Writing) (l : Log) : Writing := { w with logs := w.logs ++ [l] }

/-- An artifact more. One that cannot be written is only mentioned. -/
def create (x : Extraction) (iteration : Nat) (id subpath : String) (contents : ByteArray)
    (w : Writing) : Writing :=
  match x.store.create iteration w.files w.recorded id subpath contents with
  | (files, .ok recorded) => { w with files, recorded }
  | (files, .error e) =>
    { w with files }.say (.warning .artifacts s!"failed to write artifact `{id}`: {e.message}")

/-- A text as an artifact. -/
def createText (x : Extraction) (iteration : Nat) (id subpath text : String) (w : Writing) :
    Writing :=
  x.create iteration id subpath text.toUTF8 w

/-! ## Texts -/

/-- A text becomes the baseline of a test. -/
def reset (x : Extraction) (test subpath text : String) (w : Writing) : Writing :=
  match Artifact.writeFile w.files (Path.join x.layout.versionDir subpath) text.toUTF8 with
  | (files, .ok _) => { w with files }
  | (files, .error e) =>
    { w with files }.say (.warning .artifacts s!"failed to reset baseline for {test}: {e.message}")

/-- Whether what an attempt observed becomes the baseline of its test. -/
def shouldReset (x : Extraction) (iteration : Nat) (a : Attempt) : Bool :=
  x.resets && iteration == 0 && a.verdict != .crash && a.verdict != .timeout

/-- A baseline as it is shown: without outer blanks, and with a newline at its end. -/
def shownBaseline (text : String) : String :=
  String.ofList (Text.trim text.toList) ++ "\n"

/-- What an attempt observed, and how it differs from its baseline. -/
def writeTexts (x : Extraction) (iteration : Nat) (a : Attempt) (w : Writing) :
    Except TestName.Unnameable Writing := do
  let actualPath ← TestName.outputPath a.name "-actual" ".txt"
  let expectedPath ← TestName.outputPath a.name "-expected" ".txt"
  let actual := a.baseline
  let w := x.createText iteration "actual_text" actualPath actual w
  let w := if x.shouldReset iteration a then x.reset a.name expectedPath actual w else w
  match a.baselineText with
  | none => return w
  | some text =>
    let expected := shownBaseline text
    let diffPath ← TestName.outputPath a.name "-diff" ".txt"
    let pagePath ← TestName.outputPath a.name "-pretty-diff" ".html"
    let w := x.createText iteration "expected_text" expectedPath expected w
    let w := x.createText iteration "text_diff" diffPath
      (Diff.unified expected actual expectedPath actualPath) w
    return x.createText iteration "pretty_text_diff" pagePath (Diff.html expected actual) w

/-! ## Screenshots -/

/-- The screenshots of an attempt so far: of the test itself, and of what it should look like. -/
structure Shots where
  /-- The last one of the test. -/
  actual : Option ByteArray := none
  /-- The last one of another page. -/
  expected : Option ByteArray := none

/-- The URL of a test, without a slash in front. -/
def urlOf (test : String) : String :=
  TestName.withoutPublicPrefix (TestName.splitVirtual test).2

/-- One screenshot more. One whose data cannot be read is only mentioned. -/
def writeShot (x : Extraction) (iteration : Nat) (test : String) (s : Shots × Writing) :
    Screenshot → Except TestName.Unnameable (Shots × Writing)
  | .relation _ => .ok s
  | .image url data =>
    let url := TestName.withoutSlash url
    match Base64.decode? (String.ofList (Text.trim data.toList)) with
    | none => .ok (s.1, s.2.say
        (.warning .artifacts s!"{test}: skipping screenshot of {url} with invalid base64"))
    | some bytes =>
      if url = urlOf test then
        (TestName.outputPath test "-actual" ".png").map fun path ↦
          ({ s.1 with actual := some bytes }, x.create iteration "actual_image" path bytes s.2)
      else
        (TestName.outputPath test "-expected" ".png").map fun path ↦
          ({ s.1 with expected := some bytes }, x.create iteration "expected_image" path bytes s.2)

/-- How two screenshots differ. -/
def writeDifference (x : Extraction) (iteration : Nat) (test : String)
    (expected actual : ByteArray) (w : Writing) :
    Except TestName.Unnameable (Writing × Option ImageStats) :=
  match Image.compareFiles expected actual with
  | .ok none => .ok (w, none)
  | .ok (some d) =>
    (TestName.outputPath test "-diff" ".png").map fun path ↦
      (x.create iteration "image_diff" path d.image.png w, some d.stats)
  | .error e =>
    .ok (w.say (.error .artifacts s!"error creating diff image for {test}: {e.message}"), none)

/-- The screenshots of an attempt, and how the last ones differ. -/
def writeShots (x : Extraction) (iteration : Nat) (test : String) (screenshots : List Screenshot)
    (w : Writing) : Except TestName.Unnameable (Writing × Option ImageStats) := do
  let (shots, w) ← screenshots.foldlM (x.writeShot iteration test) (({} : Shots), w)
  match shots.expected, shots.actual with
  | some expected, some actual => x.writeDifference iteration test expected actual w
  | _, _ => return (w, none)

/-! ## Logs -/

/-- Lines as an artifact, if there are any. -/
def writeLog (x : Extraction) (iteration : Nat) (test id suffix : String) (lines : List String)
    (w : Writing) : Except TestName.Unnameable Writing :=
  if lines.isEmpty then .ok w
  else (TestName.outputPath test suffix ".txt").map fun path ↦
    x.createText iteration id path (String.join lines) w

/-! ## All of it -/

/-- The results of an attempt, which are written if it failed or baselines are reset. -/
def writeResults (x : Extraction) (iteration : Nat) (a : Attempt) (screenshots : List Screenshot)
    (w : Writing) : Except TestName.Unnameable (Writing × Option ImageStats) :=
  if x.resets || a.verdict == .failure then do
    let w ← if a.kind.hasSubtests then x.writeTexts iteration a w else .ok w
    x.writeShots iteration a.name screenshots w
  else .ok (w, none)

/-- The attempt with its artifacts, and what has been written. The messages of the attempt and the
output of crashed browsers are used up. -/
def extract (x : Extraction) (files : FileTree) (iteration : Nat) (a : Attempt)
    (screenshots : List Screenshot) (crashLog : List String) :
    Except TestName.Unnameable (Attempt × Writing) := do
  let (w, imageStats) ← x.writeResults iteration a screenshots { files }
  let w ← x.writeLog iteration a.name "stderr" "-stderr" a.messages w
  let w ← x.writeLog iteration a.name "crash_log" "-crash-log" crashLog w
  return ({ a with messages := [], artifacts := w.recorded, imageStats }, w)

end Extraction

end WebTestRun
