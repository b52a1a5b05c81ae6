import WebTestRun.Manifest
import WebTestRun.TestName

/-!
# Looking up tests

The kind of a test and the file that holds it are found in a manifest, one for the public tests
and one for the internal ones. Where there is no manifest every test is of one kind, and its file
is its name without the variant.

* `Lookup` — the manifests.
* `Lookup.resolve` — the kind and the file of a test.
-/

set_option autoImplicit false

namespace WebTestRun

/-- Where tests are looked up. -/
structure Lookup where
  /-- The manifest of the public tests. -/
  tests : Option Manifest
  /-- The manifest of the internal tests. -/
  internal : Option Manifest
  /-- The kind of every test that has no manifest. -/
  defaultKind : TestKind

namespace Lookup

/-- A test that its manifest does not list. -/
structure NotListed where
  /-- The name of the test itself, outside of suites. -/
  test : String
  deriving DecidableEq, Repr

/-- The manifest for a test, the directory that it is about, and the URL of the test in it. -/
def place (l : Lookup) (base : String) : Option Manifest × String × String :=
  match Text.dropPrefix? TestName.internalPrefix base with
  | some url => (l.internal, TestName.internalPrefix, url)
  | none => (l.tests, TestName.publicPrefix, TestName.withoutPublicPrefix base)

/-- A name up to where its variant starts. -/
def withoutVariant (test : String) : String :=
  String.ofList (test.toList.takeWhile fun c ↦ c ≠ '?' && c ≠ '#')

/-- The kind and the file of a test. -/
def resolve (l : Lookup) (test : String) : Except NotListed (TestKind × String) :=
  let base := (TestName.splitVirtual test).2
  match l.place base with
  | (some manifest, directory, url) =>
    match manifest.get? url with
    | some entry => .ok (entry.kind, directory ++ entry.path)
    | none => .error ⟨base⟩
  | (none, _, _) => .ok (l.defaultKind, withoutVariant base)

end Lookup

end WebTestRun
