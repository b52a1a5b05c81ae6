/-!
# Images

An image is a rectangle of pixels, row by row. A pixel has four channels of eight bits, the last
of which says how opaque it is.

* `Pixel`, `Image` — pixels and images.
-/

set_option autoImplicit false

namespace WebTestRun

/-- A pixel. -/
structure Pixel where
  /-- Its red. -/
  red : UInt8
  /-- Its green. -/
  green : UInt8
  /-- Its blue. -/
  blue : UInt8
  /-- How opaque it is. -/
  alpha : UInt8
  deriving DecidableEq, Repr, Inhabited

/-- The channels of a pixel. -/
def Pixel.channels (p : Pixel) : List UInt8 := [p.red, p.green, p.blue, p.alpha]

/-- An opaque pixel of one brightness. -/
def Pixel.gray (n : UInt8) : Pixel := ⟨n, n, n, 255⟩

/-- An image. -/
structure Image where
  /-- The number of pixels in a row. -/
  width : Nat
  /-- The number of rows. -/
  height : Nat
  /-- The pixels, row by row. -/
  pixels : List Pixel
  /-- Every row is full. -/
  length_pixels : pixels.length = width * height
  deriving DecidableEq, Repr

namespace Image

/-- The image of rows in one list, if they are full. -/
def ofPixels? (width height : Nat) (pixels : List Pixel) : Option Image :=
  if h : pixels.length = width * height then some ⟨width, height, pixels, h⟩ else none

/-- Width and height. -/
def dimensions (i : Image) : Nat × Nat := (i.width, i.height)

end Image

end WebTestRun
