import Mathlib.Algebra.Group.Nat.Defs
import Raster.Bitmap

/-!
Uncompressed device-independent bitmaps as the format describes them: where the numbers of the
headers stand, how the bytes of a pixel make up its colour, and where the pixels stand. Nothing
here refers to how a file is read.
-/

namespace Raster

structure Colour where
  alpha : Nat
  red : Nat
  green : Nat
  blue : Nat
deriving DecidableEq

def Pixel.colour (pixel : Pixel) : Colour :=
  ⟨pixel.alpha.toNat, pixel.red.toNat, pixel.green.toNat, pixel.blue.toNat⟩

namespace Dib

def byteOf (bytes : Array UInt8) (index : Nat) : Nat := (bytes.getD index 0).toNat

def shortOf (bytes : Array UInt8) (index : Nat) : Nat :=
  byteOf bytes index + 2 ^ 8 * byteOf bytes (index + 1)

def wordOf (bytes : Array UInt8) (index : Nat) : Nat :=
  shortOf bytes index + 2 ^ 16 * shortOf bytes (index + 2)

/-- Adjacent bits of a pixel: how many, and how many bits are below them. -/
structure BitRun where
  count : Nat
  below : Nat
  isSome : 0 < count
  fits : count + below ≤ 32

namespace BitRun

def word (run : BitRun) : Nat := (2 ^ run.count - 1) * 2 ^ run.below

def field (run : BitRun) (value : Nat) : Nat := value / 2 ^ run.below % 2 ^ run.count

def level (run : BitRun) (value : Nat) : Nat :=
  (run.field value * 255 + (2 ^ run.count - 1) / 2) / (2 ^ run.count - 1)

end BitRun

inductive Encoding where
  | colour24
  | colourAlpha32
  | fields32 (red green blue : BitRun) (alpha : Option BitRun)
  | colour48

namespace Encoding

def size : Encoding → Nat
  | .colour24 => 3
  | .colourAlpha32 => 4
  | .fields32 .. => 4
  | .colour48 => 6

def method : Encoding → Nat
  | .fields32 .. => 3
  | _ => 0

def storesAlpha : Encoding → Bool
  | .colourAlpha32 => true
  | _ => false

def colour (encoding : Encoding) (bytes : Array UInt8) (index : Nat) : Colour :=
  let byte (offset : Nat) := byteOf bytes (index + offset)
  match encoding with
  | .colour24 => ⟨255, byte 2, byte 1, byte 0⟩
  | .colourAlpha32 => ⟨byte 3, byte 2, byte 1, byte 0⟩
  | .fields32 red green blue alpha =>
      let value := wordOf bytes index
      ⟨(alpha.map (·.level value)).getD 255, red.level value, green.level value, blue.level value⟩
  | .colour48 => ⟨255, byte 5, byte 3, byte 1⟩

/-- The masks of an encoding by fields stand inside a long header, or behind a short one. -/
def MasksStand (encoding : Encoding) (headerSize : Nat) (bytes : Array UInt8) (start : Nat) :
    Prop :=
  match encoding with
  | .fields32 red green blue alpha =>
      start + 66 ≤ bytes.size ∧ wordOf bytes (start + 54) = red.word ∧
        wordOf bytes (start + 58) = green.word ∧ wordOf bytes (start + 62) = blue.word ∧
        if 56 ≤ headerSize then
          wordOf bytes (start + 66) = (alpha.map BitRun.word).getD 0
        else alpha = none
  | _ => True

end Encoding

structure Description where
  width : Nat
  height : Nat
  /-- The first stored row is the top one; else it is the bottom one. -/
  topDown : Bool
  encoding : Encoding
  headerSize : Nat
  pixelOffset : Nat

namespace Description

variable (file : Description) (bytes : Array UInt8) (start : Nat)

/-- A core header: sides of 16 bits, and 24 bits to a pixel. -/
structure CoreStands : Prop where
  size : file.headerSize = 12
  width : shortOf bytes (start + 18) = file.width
  height : shortOf bytes (start + 20) = file.height
  planes : shortOf bytes (start + 22) = 1
  bits : shortOf bytes (start + 24) = 24
  order : file.topDown = false
  encoding : file.encoding = .colour24

/-- An info header: signed sides of 32 bits, of which the height is negative for top-down rows. -/
structure InfoStands : Prop where
  size : file.headerSize ∈ [40, 52, 56, 108, 124]
  width : wordOf bytes (start + 18) = file.width
  widthPositive : file.width < 2 ^ 31
  height : wordOf bytes (start + 22) = if file.topDown then 2 ^ 32 - file.height else file.height
  heightSigned : if file.topDown then file.height ≤ 2 ^ 31 else file.height < 2 ^ 31
  planes : shortOf bytes (start + 26) = 1
  bits : shortOf bytes (start + 28) = 8 * file.encoding.size
  method : wordOf bytes (start + 30) = file.encoding.method
  masks : file.encoding.MasksStand file.headerSize bytes start

/-- A file header and a supported core or info header stand at a place of the data. -/
structure StandsAt : Prop where
  signature : byteOf bytes start = 0x42 ∧ byteOf bytes (start + 1) = 0x4d
  pixelOffset : wordOf bytes (start + 10) = file.pixelOffset
  headerSize : wordOf bytes (start + 14) = file.headerSize
  gap : 14 + file.headerSize ≤ file.pixelOffset
  whole : start + 14 + file.headerSize ≤ bytes.size
  hasColumns : 0 < file.width
  hasRows : 0 < file.height
  header : file.CoreStands bytes start ∨ file.InfoStands bytes start

def rowSize : Nat := 4 * ((file.width * (8 * file.encoding.size) + 31) / 32)

def storedRow (y : Nat) : Nat := if file.topDown then y else file.height - 1 - y

def pixelAt (y x : Nat) : Nat :=
  start + file.pixelOffset + file.storedRow y * file.rowSize + x * file.encoding.size

def pixelsEnd : Nat := start + file.pixelOffset + file.height * file.rowSize

def AlphaUnused : Prop :=
  file.encoding.storesAlpha = true ∧
    ∀ y < file.height, ∀ x < file.width, byteOf bytes (file.pixelAt start y x + 3) = 0

instance : Decidable (file.AlphaUnused bytes start) := inferInstanceAs (Decidable (_ ∧ _))

/-- The colour at a row and a column; fourth bytes that are all zero were not meant as alpha. -/
def colour (y x : Nat) : Colour :=
  let stored := file.encoding.colour bytes (file.pixelAt start y x)
  if file.AlphaUnused bytes start then { stored with alpha := 255 } else stored

/-- A bitmap without padding shows the pixels of the file. -/
structure ShownBy (bitmap : Bitmap) : Prop where
  width : bitmap.width.toNat = file.width
  height : bitmap.height.toNat = file.height
  stride : bitmap.stride.toNat = file.width
  size : bitmap.pixels.size = file.width * file.height
  pixels : ∀ y x : UInt32, y < bitmap.height → x < bitmap.width →
    (bitmap.pixel? y x).map Pixel.colour = some (file.colour bytes start y.toNat x.toNat)

end Description

end Dib

end Raster
