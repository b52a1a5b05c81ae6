import WebTestRun.Artifact.Map
import WebTestRun.Image.Stats
import WebTestRun.Json.Decode

/-!
# Leaves of a report

What a report says about one test, all its attempts together. In JSON a leaf is a record; a flag
that is false and a value that is absent are left out, but for the shard, which is null then.

* `Leaf` — what is said about a test.
* `Leaf.json`, `Leaf.ofDocument?` — the record.
-/

set_option autoImplicit false

namespace WebTestRun

/-- What a report says about a test. -/
structure Leaf where
  /-- The verdicts expected of the first attempt, with blanks between them. -/
  expected : String
  /-- The verdict of every attempt, with blanks between them. -/
  actual : String
  /-- Which part of the tests it ran with. -/
  shard : Option Nat := none
  /-- Two attempts have different verdicts. -/
  isFlaky : Bool := false
  /-- How long the first attempt took, in seconds, to a tenth. -/
  time : Option Float := none
  /-- The test is known to be slow. -/
  isSlow : Bool := false
  /-- The verdict of the last attempt was unexpected. -/
  isUnexpected : Bool := false
  /-- The last attempt is a regression. -/
  isRegression : Bool := false
  /-- How far the screenshots of the first attempt differ. -/
  imageStats : Option ImageStats := none
  /-- The paths of the artifacts of all attempts, under their kinds. -/
  artifacts : List (String × List String) := []
  /-- Some attempt had diagnostic messages. -/
  hasStderr : Bool := false

namespace Leaf

/-! ## Writing -/

/-- A member that is there if it holds something. -/
def some? {α : Type} (key : String) (f : α → Json) : Option α → List (String × Json)
  | none => []
  | some a => [(key, f a)]

/-- A member that is there if the flag is set. -/
def flag (key : String) (b : Bool) : List (String × Json) :=
  if b then [(key, .bool true)] else []

/-- The record of the numbers on two images. -/
def statsJson (s : ImageStats) : Json :=
  .object [("maxDifference", .ofNat s.maxDifference), ("maxPixels", .ofNat s.maxPixels)]

/-- The record of the paths of artifacts. -/
def artifactsJson (artifacts : List (String × List String)) : Json :=
  .object (artifacts.map fun a ↦ (a.1, .array (a.2.map .string)))

/-- The members of the record of a leaf. -/
def members (l : Leaf) : List (String × Json) :=
  [("expected", .string l.expected), ("actual", .string l.actual),
   ("shard", match l.shard with
    | none => .null
    | some n => .ofNat n)] ++
  flag "is_flaky" l.isFlaky ++
  some? "time" (fun x ↦ .number (.real x)) l.time ++
  flag "is_slow_test" l.isSlow ++
  flag "is_unexpected" l.isUnexpected ++
  flag "is_regression" l.isRegression ++
  some? "image_diff_stats" statsJson l.imageStats ++
  (if l.artifacts.isEmpty then [] else [("artifacts", artifactsJson l.artifacts)]) ++
  flag "has_stderr" l.hasStderr

/-- The record of a leaf. -/
def json (l : Leaf) : Json := .object l.members

/-! ## Reading -/

/-- The numbers on two images that a document gives. -/
def stats? (d : Document) : Option ImageStats := do
  let f ← d.fields? ["maxDifference", "maxPixels"]
  let difference ← (← f.required? "maxDifference").natural?
  if 255 < difference then none
  else return ⟨difference, ← (← f.required? "maxPixels").natural?⟩

/-- The members of an object whose keys are texts and whose values are of one type. Of two members
under one key the later counts. -/
def members? {α : Type} (read? : Document → Option α) (d : Document) :
    Option (List (String × α)) :=
  match d with
  | .object members =>
    (members.mapM fun (m : Option String × Document) ↦
      m.1.bind fun k ↦ (read? m.2).map fun a ↦ (k, a)).map Keyed.ofList
  | _ => none

/-- The names of the fields, in order. -/
def names : List String :=
  ["expected", "actual", "shard", "is_flaky", "time", "is_slow_test", "is_unexpected",
   "is_regression", "image_diff_stats", "artifacts", "has_stderr"]

/-- The leaf that a document gives. -/
def ofDocument? (d : Document) : Option Leaf := do
  let f ← d.fields? names
  return {
    expected := ← (← f.required? "expected").text?
    actual := ← (← f.required? "actual").text?
    shard := ← f.valueOr "shard" none (Document.orNull? Document.natural?)
    isFlaky := ← f.valueOr "is_flaky" false Document.boolean?
    time := ← f.valueOr "time" none (Document.orNull? Document.real?)
    isSlow := ← f.valueOr "is_slow_test" false Document.boolean?
    isUnexpected := ← f.valueOr "is_unexpected" false Document.boolean?
    isRegression := ← f.valueOr "is_regression" false Document.boolean?
    imageStats := ← f.valueOr "image_diff_stats" none (Document.orNull? stats?)
    artifacts := ← f.valueOr "artifacts" [] (members? (Document.list? Document.text?))
    hasStderr := ← f.valueOr "has_stderr" false Document.boolean? }

end Leaf

end WebTestRun
