import WebTestRun.File.Path
import WebTestRun.Text.Cut

/-!
# Names of tests

The runner names a test relative to the public tests, or to the internal ones, which have a
prefix of their own. A run names it relative to the web tests, below `virtual/` and the suite if
the test runs under one. Names of output files follow from the name of a test.

* `TestName.full` — the name of a test, from what the runner calls it.
* `TestName.splitVirtual` — the suite and the name of the test itself.
* `TestName.outputPath` — the path of a file about a test.
-/

set_option autoImplicit false

namespace WebTestRun.TestName

/-- What the names of the public tests start with. -/
def publicPrefix : String := "external/wpt/"

/-- What the names of the internal tests start with. -/
def internalPrefix : String := "wpt_internal/"

/-- What the names of tests under a suite start with. -/
def virtualPrefix : String := "virtual/"

/-- Whether a test is an internal one. -/
def isInternal (test : String) : Bool := Text.hasPrefix internalPrefix test

/-- A text without one slash in front. -/
def withoutSlash (test : String) : String := (Text.dropPrefix? "/" test).getD test

/-- The name of a test outside of suites. -/
def base (test : String) : String :=
  let test := withoutSlash test
  if isInternal test then test else publicPrefix ++ test

/-- The name of a test that the runner names, under a suite if one is named. -/
def full (test : String) (suite : Option String) : String :=
  match suite.filter fun s ↦ !s.isEmpty with
  | some s => virtualPrefix ++ s ++ "/" ++ base test
  | none => base test

/-- The suite that a test runs under, if any, and the name of the test itself. -/
def splitVirtual (name : String) : Option String × String :=
  match (Text.dropPrefix? virtualPrefix name).bind (Text.cutAt? '/') with
  | some (suite, test) => (some suite, test)
  | none => (none, name)

/-- The name of a test without the prefix of the public tests. -/
def withoutPublicPrefix (name : String) : String := (Text.dropPrefix? publicPrefix name).getD name

/-! ## Names of output files -/

/-- A test whose files cannot be named: taking off the extension would cut a character. -/
structure Unnameable where
  /-- The name of the test. -/
  test : String
  deriving DecidableEq, Repr

/-- The characters that the first `n` bytes hold, if they end between two characters. -/
def takeBytes? : (n : Nat) → List Char → Option (List Char)
  | 0, _ => some []
  | _ + 1, [] => none
  | n + 1, c :: rest =>
    if c.utf8Size ≤ n + 1 then (takeBytes? (n + 1 - c.utf8Size) rest).map (c :: ·) else none
termination_by _ s => s.length

/-- The path up to the extension of its last name. The extension and its dot are taken off the
end of the path as it is written, so what follows the last name counts as a part of them. -/
def stem? (path : String) : Option (List Char) :=
  match Path.extension? path with
  | some extension => takeBytes? (path.utf8ByteSize - (extension.utf8ByteSize + 1)) path.toList
  | none => some path.toList

/-- The characters of a variant that file names may hold; an underscore for any other. -/
def variantChar (c : Char) : Char := if c.isAlphanum then c else '_'

/-- The path of a file about a test: the path of the test without its extension, its variant (what
follows the first `?` or `#`), a suffix and an extension. -/
def outputPath (test suffix extension : String) : Except Unnameable String :=
  let isMark (c : Char) : Bool := c = '?' || c = '#'
  let path := test.toList.takeWhile fun c ↦ !isMark c
  let variant := (test.toList.dropWhile fun c ↦ !isMark c).drop 1
  match stem? (String.ofList path) with
  | none => .error ⟨test⟩
  | some stem =>
    let variant := if variant.isEmpty then [] else '_' :: variant.map variantChar
    .ok (String.ofList (stem ++ variant) ++ suffix ++ extension)

theorem base_withoutSlash (test : String) :
    base ("/" ++ test) = if isInternal test then test else publicPrefix ++ test := by
  simp [base, withoutSlash, Text.dropPrefix?_append]

end WebTestRun.TestName
