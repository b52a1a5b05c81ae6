import Std.Data.HashMap
import WebTestRun.File.Path
import WebTestRun.Json.Document
import WebTestRun.Json.Decode
import WebTestRun.TestKind
import WebTestRun.TestName

/-!
# Manifests

A manifest lists the tests of a tree: under each kind of test a tree of directories and files, and
for each file the URLs of the tests in it. Directories are objects. A file is an array whose first
element does not matter here; each further element is an array that starts with a URL, or with
null if the URL is the path of the file.

* `Manifest` — tests under their URLs.
* `Manifest.read` — the manifest of a text.
* `Manifest.get?` — the test of a URL.
-/

set_option autoImplicit false

namespace WebTestRun

/-- A test that a manifest lists. -/
structure Manifest.Entry where
  /-- Its kind. -/
  kind : TestKind
  /-- The path of its file. -/
  path : String
  deriving DecidableEq, Repr

/-- The tests of a manifest under their URLs, without a slash in front. -/
structure Manifest where
  /-- The tests. -/
  tests : Std.HashMap String Manifest.Entry := ∅

namespace Manifest

/-- Why a text is no manifest. -/
inductive Fault where
  /-- The text, or a part of it, has the wrong form. -/
  | malformed
  | unsupportedVersion (found : Nat)
  deriving DecidableEq, Repr

/-- The version of the manifests that can be read. -/
def version : Nat := 8

/-- What is said about a fault. -/
def Fault.message : Fault → String
  | .malformed => "error parsing manifest"
  | .unsupportedVersion found =>
    s!"unsupported manifest version {found} (supported: {version})"

/-- The URL that an element of a file names. -/
def url? (path : String) : Json → Option String
  | .array (.string url :: _) => some (TestName.withoutSlash url)
  | .array (.null :: _) => some path
  | _ => none

/-- The tests of a file. -/
def fileTests? (kind : TestKind) (path : String) (elements : List Json) :
    Option (List (String × Entry)) :=
  elements.mapM fun e ↦ (url? path e).map fun url ↦ (url, ⟨kind, path⟩)

mutual

/-- The tests of a file or directory, in the order in which they are listed. -/
def nodeTests? (kind : TestKind) (path : String) : Json → Option (List (String × Entry))
  | .object members => treeTests? kind path members
  | .array elements => fileTests? kind path (elements.drop 1)
  | _ => none

/-- The tests of the members of a directory. -/
def treeTests? (kind : TestKind) (path : String) :
    List (String × Json) → Option (List (String × Entry))
  | [] => some []
  | (name, node) :: rest =>
    (nodeTests? kind (Path.below path name) node).bind fun here ↦
      (treeTests? kind path rest).map (here ++ ·)

end

/-- The tests under the names of kinds. Members under other names are left out. -/
def itemTests? : List (String × Json) → Option (List (String × Entry))
  | [] => some []
  | (name, tree) :: rest =>
    match Named.ofName? (α := TestKind) name with
    | none => itemTests? rest
    | some kind =>
      match tree with
      | .object members =>
        (treeTests? kind "" members).bind fun here ↦ (itemTests? rest).map (here ++ ·)
      | _ => none

/-- The manifest of a list of tests. Of two with one URL the later counts. -/
def ofTests (tests : List (String × Entry)) : Manifest :=
  ⟨tests.foldl (fun m e ↦ m.insert e.1 e.2) ∅⟩

/-- The version and the items of a document. -/
def parts? (d : Document) : Option (Nat × List (String × Json)) := do
  let fields ← d.fields? ["version", "items"]
  let version ← (← fields.required? "version").natural?
  match fields.optional "items" with
  | none => some (version, [])
  | some items =>
    match ← items.value? (Document.nestingLimit - 1) with
    | .object members => some (version, members)
    | _ => none

/-- The manifest of a text. -/
def read (text : String) : Except Fault Manifest :=
  match (Document.ofText? text).bind parts? with
  | none => .error .malformed
  | some (found, items) =>
    if found ≠ version then .error (.unsupportedVersion found)
    else match itemTests? items with
      | none => .error .malformed
      | some tests => .ok (ofTests tests)

/-- The test of a URL, with or without a slash in front. -/
def get? (m : Manifest) (url : String) : Option Entry := m.tests[TestName.withoutSlash url]?

/-- The number of URLs. -/
def size (m : Manifest) : Nat := m.tests.size

end Manifest

end WebTestRun
