import Raster.Bitmap
import Raster.Dib.Header

/-!
Decoding of uncompressed device-independent bitmaps with 24, 32 or 48 bits to a pixel. Rows are
padded to whole words; a positive height stores them bottom up.
-/

namespace Raster.Dib

def Layout.pixel? (layout : Layout) (row : Array UInt8) (column : Nat) : Option Pixel :=
  match layout with
  | .blueGreenRed24 => do
      let start := column * 3
      return Pixel.solid (← row[start + 2]?) (← row[start + 1]?) (← row[start]?)
  | .blueGreenRedAlpha32 => do
      let start := column * 4
      return Pixel.ofChannels (← row[start + 3]?) (← row[start + 2]?) (← row[start + 1]?)
        (← row[start]?)
  | .masked32 red green blue alpha => do
      let start := column * 4
      let value := (← row[start]?).toUInt32 ||| ((← row[start + 1]?).toUInt32 <<< 8)
        ||| ((← row[start + 2]?).toUInt32 <<< 16) ||| ((← row[start + 3]?).toUInt32 <<< 24)
      let opacity := match alpha with
        | some mask => mask.extract value
        | none => 0xff
      return Pixel.ofChannels opacity (red.extract value) (green.extract value)
        (blue.extract value)
  | .blueGreenRed48 => do
      let start := column * 6
      return Pixel.solid (← row[start + 5]?) (← row[start + 3]?) (← row[start + 1]?)

def Info.rowBytes (info : Info) : Nat := (info.width.toNat * info.layout.bits + 31) / 32 * 4

def Info.targetRow (info : Info) (stored : UInt32) : UInt32 :=
  if info.topDown then stored else info.height - 1 - stored

structure Progress where
  bitmap : Bitmap
  alphaSeen : UInt8

def alphaUnion (pixels : Array Pixel) (seen : UInt8) : UInt8 :=
  pixels.foldl (fun union pixel => union ||| pixel.alpha) seen

/-- Decodes one stored row into its place; columns without all their bytes stay as they were. -/
def decodeRow (info : Info) (stored : UInt32) (row : Array UInt8) :
    Progress → Except Failure Progress
  | ⟨bitmap, alphaSeen⟩ =>
      let target := info.targetRow stored
      match bitmap.mapRow? target fun column old => (info.layout.pixel? row column).getD old with
      | none => .error .panicked
      | some bitmap =>
          match bitmap.row? target with
          | none => .error .panicked
          | some pixels => .ok ⟨bitmap, alphaUnion pixels alphaSeen⟩

def readRows (info : Info) (stored : Nat) : Nat → Progress → Reading Progress
  | 0, progress => return progress
  | count + 1, progress => do
      let row ← Reading.exactly info.rowBytes (.decode (.dibTruncated .pixelData))
      let progress ← decodeRow info (UInt32.ofNat stored) row progress
      readRows info (stored + 1) count progress

/-- A fourth byte that is zero in every pixel was never meant as alpha. -/
def Progress.finish (progress : Progress) (layout : Layout) : Bitmap :=
  if layout = .blueGreenRedAlpha32 ∧ progress.alphaSeen = 0 then
    progress.bitmap.mapVisible fun _ _ pixel => pixel.withAlpha 0xff
  else progress.bitmap

def verifyHeader : Reading Unit := do
  let _ ← readFileHeader

def readBitmap (limits : Limits) : Reading Bitmap := do
  let start ← Reading.position (.during .dibPosition)
  let file ← readFileHeader
  let info ← readInfo file.headerSize
  limits.checkDimensions info.width info.height
  Reading.seek (start + file.pixelOffset.toNat) (.during .dibSeek)
  let bitmap ← Bitmap.withSize info.width info.height
  let progress ← readRows info 0 info.height.toNat ⟨bitmap, 0⟩
  return progress.finish info.layout

end Raster.Dib
