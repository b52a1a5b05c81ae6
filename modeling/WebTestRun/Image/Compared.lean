import WebTestRun.Image.Difference
import WebTestRun.Image.Png

/-!
# Comparing files of images

* `Image.compareFiles` — the difference of two images in files.
-/

set_option autoImplicit false

namespace WebTestRun.Image

/-- Why two files cannot be compared. -/
inductive CompareFault where
  /-- One of them is no image. -/
  | undecodable (which : String)
  | mismatch (dimensions : Mismatch)
  deriving DecidableEq, Repr

/-- What is said about it. -/
def CompareFault.message : CompareFault → String
  | .undecodable which => s!"error decoding {which} image"
  | .mismatch m =>
    s!"image dimensions differ: expected {m.expected.1}x{m.expected.2}, " ++
      s!"actual {m.actual.1}x{m.actual.2}"

/-- The image of a file, which is called by a word. -/
def ofFile (which : String) (file : ByteArray) : Except CompareFault Image :=
  match ofPng? file with
  | some i => .ok i
  | none => .error (.undecodable which)

/-- The difference of two images in files, or nothing if they are the same. -/
def compareFiles (expected actual : ByteArray) : Except CompareFault (Option Difference) := do
  let e ← ofFile "expected" expected
  let a ← ofFile "actual" actual
  (difference? e a).mapError .mismatch

end WebTestRun.Image
