import Raster.Error
import Raster.Pixel

/-!
Bitmaps: rows of pixels in one storage array, `stride` slots apart. The slots of a row past the
visible width are padding; only whole-storage operations touch them.
-/

namespace Raster

structure Bitmap where
  width : UInt32
  height : UInt32
  stride : UInt32
  pixels : Array Pixel
deriving DecidableEq, Repr

namespace Bitmap

def empty : Bitmap := ⟨0, 0, 0, #[]⟩

instance : Inhabited Bitmap := ⟨empty⟩

/-- Storage and sizes agree: rows do not overlap and fill the storage exactly. -/
structure WellFormed (bitmap : Bitmap) : Prop where
  widthBound : bitmap.width ≤ bitmap.stride
  sizeExact : bitmap.pixels.size = bitmap.stride.toNat * bitmap.height.toNat

def cleared (width height stride : UInt32) : Bitmap :=
  ⟨width, height, stride, Array.replicate (stride.toNat * height.toNat) Pixel.transparent⟩

def blank (width height : UInt32) : Bitmap := cleared width height width

def storageBytes (height stride : UInt32) : Nat := 4 * (stride.toNat * height.toNat)

/-- No allocation may have more bytes than the largest signed number of 64 bits. -/
def largestAllocation : Nat := 0x7fffffffffffffff

def allocate (width height stride : UInt32) : Except Failure Bitmap :=
  if storageBytes height stride ≤ largestAllocation then .ok (cleared width height stride)
  else .error .panicked

def withSize (width height : UInt32) : Except Failure Bitmap := allocate width height width

def ofPixels (width height : UInt32) (pixels : Array Pixel) : Except Failure Bitmap :=
  if pixels.size = width.toNat * height.toNat then .ok ⟨width, height, width, pixels⟩
  else .error (.refused (.validation .pixelCountMismatch))

def valid (bitmap : Bitmap) : Bool :=
  decide (0 < bitmap.width) && decide (0 < bitmap.height) && !bitmap.pixels.isEmpty

def slot (bitmap : Bitmap) (y x : UInt32) : Nat :=
  y.toNat * bitmap.stride.toNat + x.toNat

def pixel? (bitmap : Bitmap) (y x : UInt32) : Option Pixel :=
  bitmap.pixels[bitmap.slot y x]?

def setPixel? (bitmap : Bitmap) (y x : UInt32) (pixel : Pixel) : Option Bitmap :=
  if bitmap.slot y x < bitmap.pixels.size then
    some { bitmap with pixels := bitmap.pixels.setIfInBounds (bitmap.slot y x) pixel }
  else none

def rowStart (bitmap : Bitmap) (y : UInt32) : Nat := y.toNat * bitmap.stride.toNat

def hasRow (bitmap : Bitmap) (y : UInt32) : Bool :=
  decide (bitmap.rowStart y + bitmap.width.toNat ≤ bitmap.pixels.size)

def row? (bitmap : Bitmap) (y : UInt32) : Option (Array Pixel) :=
  if bitmap.hasRow y then
    some (bitmap.pixels.extract (bitmap.rowStart y) (bitmap.rowStart y + bitmap.width.toNat))
  else none

/-- Applies `change` to the `count` slots from `start + offset` on, handing it the offset. -/
def changeSlots (change : Nat → Pixel → Pixel) (start offset : Nat) :
    Nat → Array Pixel → Array Pixel
  | 0, pixels => pixels
  | count + 1, pixels =>
      changeSlots change start (offset + 1) count (pixels.modify (start + offset) (change offset))

def changeRow (change : Nat → Pixel → Pixel) (y : Nat) : Bitmap → Bitmap
  | ⟨width, height, stride, pixels⟩ =>
      ⟨width, height, stride, changeSlots change (y * stride.toNat) 0 width.toNat pixels⟩

def changeRows (change : Nat → Nat → Pixel → Pixel) (y : Nat) : Nat → Bitmap → Bitmap
  | 0, bitmap => bitmap
  | count + 1, bitmap => changeRows change (y + 1) count (bitmap.changeRow (change y) y)

def mapVisible (bitmap : Bitmap) (change : Nat → Nat → Pixel → Pixel) : Bitmap :=
  changeRows change 0 bitmap.height.toNat bitmap

def fill (bitmap : Bitmap) (color : Pixel) : Bitmap :=
  if bitmap.width = 0 then bitmap else bitmap.mapVisible fun _ _ _ => color

def reset (_ : Bitmap) : Bitmap := empty

def mapRow? (bitmap : Bitmap) (y : UInt32) (change : Nat → Pixel → Pixel) : Option Bitmap :=
  if bitmap.hasRow y then some (bitmap.changeRow change y.toNat) else none

/-- A visible pixel by plain indices; anything outside the storage reads as transparent. -/
def pixelAt (bitmap : Bitmap) (y x : Nat) : Pixel :=
  bitmap.pixels.getD (y * bitmap.stride.toNat + x) Pixel.transparent

end Bitmap

end Raster
