/-!
# How far two images differ

* `ImageStats` — the numbers that a comparison of two images gives.
-/

set_option autoImplicit false

namespace WebTestRun

/-- How far two images differ. -/
structure ImageStats where
  /-- The largest difference in one channel of one pixel. -/
  maxDifference : Nat
  /-- The number of pixels that differ. -/
  maxPixels : Nat
  deriving DecidableEq, Repr

end WebTestRun
