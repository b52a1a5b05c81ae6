import WebTestRun.Image.Basic
import WebTestRun.Image.Stats

/-!
# Differences between images

Two images of the same dimensions are compared pixel by pixel. What comes out is an image that
shows where they differ, in red over a faded copy of the first, and two numbers.

* `Image.difference?` — the difference of two images.
* `Pixel.distance` — how far two pixels differ.
-/

set_option autoImplicit false

namespace WebTestRun

/-- How far two numbers of eight bits differ. -/
def channelDistance (a b : UInt8) : Nat := (a.toNat - b.toNat) + (b.toNat - a.toNat)

namespace Pixel

/-- The largest difference of two pixels in one channel. -/
def distance (p q : Pixel) : Nat :=
  ((p.channels.zip q.channels).map fun c ↦ channelDistance c.1 c.2).foldl max 0

/-- The color of pixels that differ. -/
def marked : Pixel := ⟨255, 0, 0, 255⟩

/-- The brightness of a pixel, of which green has the largest part. -/
def brightness (p : Pixel) : Nat :=
  (p.red.toNat * 3 + p.green.toNat * 6 + p.blue.toNat) / 10

/-- A pixel without its color, three times closer to white. -/
def faded (p : Pixel) : Pixel := .gray (UInt8.ofNat (255 - (255 - p.brightness) / 3))

/-- What is shown for two pixels in one place. -/
def shown (p q : Pixel) : Pixel := if p.distance q = 0 then p.faded else marked

end Pixel

namespace Image

/-- What a comparison of two images gives. -/
structure Difference where
  /-- The image that shows where they differ. -/
  image : Image
  /-- How far they differ. -/
  stats : ImageStats

/-- The dimensions of two images that cannot be compared. -/
structure Mismatch where
  /-- Those of the first. -/
  expected : Nat × Nat
  /-- Those of the second. -/
  actual : Nat × Nat
  deriving DecidableEq, Repr

/-- The distances of the pixels of two images, place by place. -/
def distances (expected actual : Image) : List Nat :=
  expected.pixels.zipWith Pixel.distance actual.pixels

/-- How far two images differ. -/
def statsOf (distances : List Nat) : ImageStats where
  maxDifference := distances.foldl max 0
  maxPixels := distances.countP (0 < ·)

/-- The image that shows where two images differ. -/
def shown (expected actual : Image) (h : expected.dimensions = actual.dimensions) : Image where
  width := expected.width
  height := expected.height
  pixels := expected.pixels.zipWith Pixel.shown actual.pixels
  length_pixels := by
    simp only [dimensions, Prod.mk.injEq] at h
    rw [List.length_zipWith, expected.length_pixels, actual.length_pixels, h.1, h.2, Nat.min_self]

/-- The difference of two images, or nothing if they are the same. -/
def difference? (expected actual : Image) : Except Mismatch (Option Difference) :=
  if h : expected.dimensions = actual.dimensions then
    let stats := statsOf (distances expected actual)
    if stats.maxPixels = 0 then .ok none
    else .ok (some ⟨shown expected actual h, stats⟩)
  else .error ⟨expected.dimensions, actual.dimensions⟩

end Image

end WebTestRun
