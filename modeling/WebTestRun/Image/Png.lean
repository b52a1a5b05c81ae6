import WebTestRun.Bytes.Deflate
import WebTestRun.Image.Basic

/-!
# Images in files

A file of an image is a signature and chunks, each with a name and a checksum. The first chunk
says how samples make up pixels, later ones hold colors that samples stand for and, compressed,
the rows of samples. Each row is written as differences to what stands left of it and above it.

* `Image.ofPng?` — the image of a file.
* `Image.png` — a file of an image.
-/

set_option autoImplicit false

namespace WebTestRun.Png

/-! ## Chunks -/

/-- What every file starts with. -/
def signature : List UInt8 := [0x89, 0x50, 0x4E, 0x47, 0x0D, 0x0A, 0x1A, 0x0A]

/-- A chunk. -/
structure Chunk where
  /-- Its name. -/
  name : List UInt8
  /-- What it holds. -/
  data : List UInt8

/-- The bytes of a name. -/
def nameBytes (name : String) : List UInt8 := name.toUTF8.data.toList

/-- The length of the data and the name of the next chunk, and what follows. -/
def header? (bytes : List UInt8) : Option (Nat × List UInt8 × List UInt8) := do
  let (size, rest) ← Octets.splitAt? 4 bytes
  let (name, rest) ← Octets.splitAt? 4 rest
  return (Octets.bigEndian size, name, rest)

/-- A name that starts with a small letter is that of a chunk which can be left out. -/
def isAncillary (name : List UInt8) : Bool := name.head?.any fun b ↦ b.toNat / 32 % 2 == 1

/-- The chunks up to the last of those with samples. One of another kind must follow. A damaged
chunk is left out if it can be. The number bounds how many chunks are read. -/
def chunks? : Nat → (started : Bool) → List UInt8 → Option (List Chunk)
  | 0, _, _ => none
  | n + 1, started, bytes => do
    let (size, name, rest) ← header? bytes
    let isData := name == nameBytes "IDAT"
    if started && !isData then return []
    let (data, rest) ← Octets.splitAt? size rest
    let (sum, rest) ← Octets.splitAt? 4 rest
    if Octets.bigEndian sum = (Checksum.crc32 (name ++ data)).toNat then
      return ⟨name, data⟩ :: (← chunks? n (started || isData) rest)
    else if isAncillary name then chunks? n started rest
    else none

/-! ## Samples -/

/-- What the samples of a pixel say. -/
inductive Color where
  | gray | rgb
  /-- One sample, which stands for a color of the palette. -/
  | palette
  | grayAlpha | rgba
  deriving DecidableEq, Repr

/-- The color of its number. -/
def Color.ofNumber? : Nat → Option Color
  | 0 => some .gray
  | 2 => some .rgb
  | 3 => some .palette
  | 4 => some .grayAlpha
  | 6 => some .rgba
  | _ => none

/-- The number of samples of a pixel. -/
def Color.samples : Color → Nat
  | .gray | .palette => 1
  | .grayAlpha => 2
  | .rgb => 3
  | .rgba => 4

/-- The numbers of bits that samples can have. -/
def Color.depths : Color → List Nat
  | .gray => [1, 2, 4, 8, 16]
  | .palette => [1, 2, 4, 8]
  | .rgb | .grayAlpha | .rgba => [8, 16]

/-- What the first chunk says. -/
structure Form where
  /-- The number of pixels in a row. -/
  width : Nat
  /-- The number of rows. -/
  height : Nat
  /-- The number of bits of a sample. -/
  depth : Nat
  /-- What samples say. -/
  color : Color
  /-- The rows come in passes, each with more pixels than the one before. -/
  interlaced : Bool

/-- The form that the data of the first chunk give. -/
def Form.ofBytes? (data : List UInt8) : Option Form := do
  let (width, rest) ← Octets.splitAt? 4 data
  let (height, rest) ← Octets.splitAt? 4 rest
  match rest.map UInt8.toNat with
  | depth :: color :: 0 :: 0 :: interlace :: _ =>
    let color ← Color.ofNumber? color
    let width := Octets.bigEndian width
    let height := Octets.bigEndian height
    if width = 0 || height = 0 || !color.depths.contains depth || 1 < interlace then none
    else some ⟨width, height, depth, color, interlace == 1⟩
  | _ => none

/-- The number of bytes of a row of so many pixels. -/
def Form.rowBytes (f : Form) (width : Nat) : Nat := (width * f.color.samples * f.depth + 7) / 8

/-- How many bytes before a byte its left neighbour is. -/
def Form.step (f : Form) : Nat := max 1 (f.color.samples * f.depth / 8)

/-- The samples of a row. -/
def samples (depth : Nat) : List UInt8 → List Nat
  | [] => []
  | b :: rest =>
    if depth = 16 then
      match rest with
      | c :: rest => (b.toNat * 256 + c.toNat) :: samples depth rest
      | [] => []
    else
      ((List.range (8 / depth)).map fun i ↦
        b.toNat / Nat.pow 2 (8 - depth * (i + 1)) % Nat.pow 2 depth) ++ samples depth rest

/-! ## Rows -/

/-- The one of three neighbours, left, above and between them, that is closest to what left and
above together suggest. -/
def closest (left up corner : Nat) : Nat :=
  let target : Int := (left : Int) + up - corner
  let away (n : Nat) : Nat := (target - n).natAbs
  if away left ≤ away up && away left ≤ away corner then left
  else if away up ≤ away corner then up
  else corner

/-- What is added to a byte, given how its row is written and its neighbours. -/
def predicted? (filter left up corner : Nat) : Option Nat :=
  match filter with
  | 0 => some 0
  | 1 => some left
  | 2 => some up
  | 3 => some ((left + up) / 2)
  | 4 => some (closest left up corner)
  | _ => none

/-- The bytes of a row, given the row above. -/
def unfilter? (step filter : Nat) (above : Array UInt8) (row : List UInt8) :
    Option (Array UInt8) :=
  row.foldlM (fun (out : Array UInt8) (b : UInt8) ↦
    let i := out.size
    let at' (a : Array UInt8) (i : Nat) : Nat := (a.getD i 0).toNat
    let left := if i < step then 0 else at' out (i - step)
    let corner := if i < step then 0 else at' above (i - step)
    (predicted? filter left (at' above i) corner).map fun p ↦
      out.push (UInt8.ofNat (b.toNat + p))) #[]

/-- So many rows of one length, and the bytes that follow them. -/
def rows? (step length : Nat) : (n : Nat) → Array UInt8 → List UInt8 →
    Option (List (List UInt8) × List UInt8)
  | 0, _, bytes => some ([], bytes)
  | _ + 1, _, [] => none
  | n + 1, above, filter :: bytes => do
    let (written, bytes) ← Octets.splitAt? length bytes
    let row ← unfilter? step filter.toNat above written
    let (rest, bytes) ← rows? step length n row bytes
    return (row.toList :: rest, bytes)

/-! ## Pixels -/

/-- What the samples of an image stand for besides themselves. -/
structure Meaning where
  /-- The colors that samples of the palette stand for. -/
  palette : List (List UInt8) := []
  /-- The samples that are transparent or, for a palette, how opaque its colors are. -/
  transparency : Option (List UInt8) := none

/-- A sample in eight bits. -/
def scaled (depth n : Nat) : UInt8 :=
  if depth = 16 then UInt8.ofNat ((n + 128) / 257)
  else UInt8.ofNat (n * 255 / (Nat.pow 2 depth - 1))

/-- Transparent if the samples are those which are, and else opaque. -/
def Meaning.alpha (m : Meaning) (depth : Nat) (pixel : List Nat) : UInt8 :=
  match m.transparency with
  | none => 255
  | some t =>
    let named := (samples 16 t).map fun n ↦ if depth = 16 then n else n % 256
    if named.take pixel.length = pixel then 0 else 255

/-- The pixel of its samples. -/
def pixel? (color : Color) (depth : Nat) (m : Meaning) (s : List Nat) : Option Pixel :=
  match color, s with
  | .gray, [v] => some { Pixel.gray (scaled depth v) with alpha := m.alpha depth s }
  | .rgb, [r, g, b] => some ⟨scaled depth r, scaled depth g, scaled depth b, m.alpha depth s⟩
  | .palette, [i] =>
    let alpha := match m.transparency with
      | some t => (t[i]?).getD 255
      | none => 255
    match m.palette[i]? with
    | some [r, g, b] => some ⟨r, g, b, alpha⟩
    | _ => some ⟨0, 0, 0, 255⟩
  | .grayAlpha, [v, a] => some { Pixel.gray (scaled depth v) with alpha := scaled depth a }
  | .rgba, [r, g, b, a] =>
    some ⟨scaled depth r, scaled depth g, scaled depth b, scaled depth a⟩
  | _, _ => none

/-- A list in groups of so many, without the last if it is not full. -/
def groups {α : Type} (size : Nat) (xs : List α) : List (List α) :=
  (List.range (xs.length / size)).map fun i ↦ (xs.drop (i * size)).take size

/-- The pixels of a row. -/
def rowPixels? (f : Form) (m : Meaning) (width : Nat) (row : List UInt8) : Option (List Pixel) :=
  ((groups f.color.samples (samples f.depth row)).take width).mapM (pixel? f.color f.depth m)

/-! ## Passes -/

/-- Where the pixels of a pass are: in which column and row the first is, and how far apart they
are. -/
structure Pass where
  /-- The first column. -/
  x : Nat
  /-- The first row. -/
  y : Nat
  /-- From a column to the next. -/
  dx : Nat
  /-- From a row to the next. -/
  dy : Nat

/-- The passes of an image. -/
def Form.passes (f : Form) : List Pass :=
  if f.interlaced then
    [⟨0, 0, 8, 8⟩, ⟨4, 0, 8, 8⟩, ⟨0, 4, 4, 8⟩, ⟨2, 0, 4, 4⟩, ⟨0, 2, 2, 4⟩, ⟨1, 0, 2, 2⟩,
     ⟨0, 1, 1, 2⟩]
  else [⟨0, 0, 1, 1⟩]

/-- How many of so many places a pass reaches. -/
def reached (size first step : Nat) : Nat := (size - first + step - 1) / step

/-- The pixels of a pass with their places, and the bytes that follow them. -/
def passPixels? (f : Form) (m : Meaning) (p : Pass) (bytes : List UInt8) :
    Option (List (Nat × Pixel) × List UInt8) :=
  let width := reached f.width p.x p.dx
  let height := reached f.height p.y p.dy
  if width = 0 then some ([], bytes)
  else do
    let (rows, bytes) ← rows? f.step (f.rowBytes width) height #[] bytes
    let pixels ← rows.mapM (rowPixels? f m width)
    let placed := pixels.zipIdx.flatMap fun row ↦ row.1.zipIdx.map fun s ↦
      ((p.y + row.2 * p.dy) * f.width + p.x + s.2 * p.dx, s.1)
    return (placed, bytes)

/-- The pixels of several passes with their places. -/
def placedPixels? (f : Form) (m : Meaning) : List Pass → List UInt8 → Option (List (Nat × Pixel))
  | [], _ => some []
  | p :: rest, bytes => do
    let (here, bytes) ← passPixels? f m p bytes
    return here ++ (← placedPixels? f m rest bytes)

/-- Pixels in the order of their places. -/
def arranged (size : Nat) (placed : List (Nat × Pixel)) : List Pixel :=
  (placed.foldl (fun (a : Array Pixel) s ↦ a.setIfInBounds s.1 s.2)
    (Array.replicate size default)).toList

/-! ## Files -/

/-- The data of the first chunk of a name. -/
def find? (name : String) (chunks : List Chunk) : Option (List UInt8) :=
  (chunks.find? fun c ↦ c.name == nameBytes name).map (·.data)

/-- The image of chunks. -/
def ofChunks? (chunks : List Chunk) : Option Image := do
  let first ← chunks.head?
  if first.name ≠ nameBytes "IHDR" then none
  let form ← Form.ofBytes? first.data
  let palette := find? "PLTE" chunks
  if form.color = .palette && palette.isNone then none
  let meaning : Meaning := ⟨groups 3 (palette.getD []), find? "tRNS" chunks⟩
  let data := (chunks.filter fun c ↦ c.name == nameBytes "IDAT").flatMap (·.data)
  let bytes ← Deflate.inflate? data
  let placed ← placedPixels? form meaning form.passes bytes.toList
  Image.ofPixels? form.width form.height (arranged (form.width * form.height) placed)

/-- The bytes of a chunk. -/
def Chunk.bytes (c : Chunk) : List UInt8 :=
  Octets.ofNat 4 c.data.length ++ c.name ++ c.data ++
    Octets.ofNat 4 (Checksum.crc32 (c.name ++ c.data)).toNat

/-- The rows of an image, each written as it is. -/
def plainRows (i : Image) : List UInt8 :=
  (groups i.width i.pixels).flatMap fun row ↦ 0 :: row.flatMap Pixel.channels

/-- The first chunk of an image of four samples with eight bits. -/
def formBytes (i : Image) : List UInt8 :=
  Octets.ofNat 4 i.width ++ Octets.ofNat 4 i.height ++ [8, 6, 0, 0, 0]

end WebTestRun.Png

namespace WebTestRun.Image

/-- The image of a file. -/
def ofPng? (file : ByteArray) : Option Image := do
  let (start, rest) ← Octets.splitAt? 8 file.data.toList
  if start ≠ Png.signature then none
  Png.ofChunks? (← Png.chunks? rest.length false rest)

/-- A file of an image. -/
def png (i : Image) : ByteArray :=
  let chunks : List Png.Chunk :=
    [⟨Png.nameBytes "IHDR", Png.formBytes i⟩,
     ⟨Png.nameBytes "IDAT", Deflate.store (Png.plainRows i)⟩, ⟨Png.nameBytes "IEND", []⟩]
  ⟨(Png.signature ++ chunks.flatMap Png.Chunk.bytes).toArray⟩

end WebTestRun.Image
