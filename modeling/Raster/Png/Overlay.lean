import Raster.Bitmap
import Raster.Png.Decoder
import Raster.Png.Interlace
import Raster.Transparency

/-!
Laying a mask over a bitmap: each pixel of the mask gives the alpha of the pixel below it, and the
colours stay. Nothing is written before the whole mask has been read.
-/

namespace Raster.Png

def expandSample (sample : UInt8) (depth : Nat) : UInt8 :=
  if depth = 1 then sample * 0xff
  else if depth = 2 then sample * 0x55
  else if depth = 4 then sample * 0x11
  else sample

def packedSample? (row : Array UInt8) (depth index : Nat) : Option UInt8 :=
  match row[index * depth / 8]? with
  | none => none
  | some byte =>
      some ((byte >>> UInt8.ofNat (8 - depth - index * depth % 8)) &&&
        (UInt8.ofNat (1 <<< depth) - 1))

def unpackFrom (row : Array UInt8) (depth : Nat) (colour : ColourType) (index : Nat) :
    Nat → Array UInt8 → Array UInt8
  | 0, samples => samples
  | count + 1, samples =>
      match packedSample? row depth index with
      | none => samples
      | some sample =>
          let value := if colour = .palette then sample else expandSample sample depth
          unpackFrom row depth colour (index + 1) count (samples.push value)

/-- The first `count` samples of a row, one to a byte; gray ones on the scale of eight bits. -/
def unpackRow (row : Array UInt8) (count depth : Nat) (colour : ColourType) : Array UInt8 :=
  if depth = 8 then row.extract 0 count
  else unpackFrom row depth colour 0 count #[]

def unpackedSample (samples : Array UInt8) (index : Nat) : Except Failure UInt8 :=
  match samples[index]? with
  | some sample => .ok sample
  | none => .error .panicked

def paletteBrightness (palette : Array UInt8) (index : Nat) : Except Failure UInt8 :=
  match palette[3 * index]?, palette[3 * index + 1]?, palette[3 * index + 2]? with
  | some red, some green, some blue => .ok (Pixel.solid red green blue).brightness
  | _, _, _ => .error (.refused (.decode .paletteIndexOutOfRange))

/--
Alpha that a mask pixel gives, from its samples at an index on: its own alpha if the colour type
has one, else its gray value or the brightness of its colour.
-/
def maskAlpha (colour : ColourType) (palette samples : Array UInt8) (index : Nat) :
    Except Failure UInt8 := do
  match colour with
  | .palette => paletteBrightness palette (← unpackedSample samples index).toNat
  | .gray => unpackedSample samples index
  | .grayAlpha => unpackedSample samples (index + 1)
  | .truecolour =>
      return (Pixel.solid (← unpackedSample samples index) (← unpackedSample samples (index + 1))
        (← unpackedSample samples (index + 2))).brightness
  | .truecolourAlpha => unpackedSample samples (index + 3)

def writeAlphas (mask : Mask) (pass : Pass) (samples : Array UInt8) (y x : Nat) :
    Nat → Array UInt8 → Except Failure (Array UInt8)
  | 0, plane => .ok plane
  | count + 1, plane =>
      match maskAlpha mask.header.colour mask.palette samples
          (x * mask.header.colour.samples) with
      | .error failure => .error failure
      | .ok alpha =>
          let place := (pass.imageY (UInt32.ofNat y)).toNat * mask.header.width.toNat +
            (pass.imageX (UInt32.ofNat x)).toNat
          if place < plane.size then
            writeAlphas mask pass samples y (x + 1) count (plane.setIfInBounds place alpha)
          else .error .panicked

/-- Reads the rows of a pass from row `y` on; also gives the rows that follow the pass. -/
def readPass (mask : Mask) (pass : Pass) (width y : Nat) :
    Nat → List (Array UInt8) → Array UInt8 → Except Failure (Array UInt8 × List (Array UInt8))
  | 0, rows, plane => .ok (plane, rows)
  | count + 1, rows, plane =>
      match rows with
      | [] =>
          match mask.rowsEnd with
          | .damaged => .error (.refused (.during .pngRow))
          | .exhausted => .error (.refused (.decode .pngEndedEarly))
      | row :: later =>
          let expected := width * mask.header.colour.samples
          let samples := unpackRow row expected mask.header.depth mask.header.colour
          if samples.size < expected then .error (.refused (.decode .pngRowShort))
          else
            match writeAlphas mask pass samples y 0 width plane with
            | .error failure => .error failure
            | .ok plane => readPass mask pass width (y + 1) count later plane

def readPasses (mask : Mask) :
    List Pass → List (Array UInt8) → Array UInt8 → Except Failure (Array UInt8)
  | [], _, plane => .ok plane
  | pass :: later, rows, plane =>
      if pass.isEmpty mask.header.width mask.header.height then readPasses mask later rows plane
      else
        match readPass mask pass (pass.width mask.header.width).toNat 0
            (pass.height mask.header.height).toNat rows plane with
        | .error failure => .error failure
        | .ok (plane, rows) => readPasses mask later rows plane

def Mask.alphas (mask : Mask) : Except Failure (Array UInt8) :=
  readPasses mask (Pass.all mask.header.interlaced) mask.rows
    (Array.replicate (mask.header.width.toNat * mask.header.height.toNat) 0)

def alphaStart (width y : UInt32) : UInt32 := y * width

def alphaStop (width y : UInt32) : UInt32 := (y + 1) * width

def setAlphas (alphas : Array UInt8) (column : Nat) (pixel : Pixel) : Pixel :=
  match alphas[column]? with
  | some alpha => pixel.withAlpha alpha
  | none => pixel

def commonBits (alphas : Array UInt8) (width : Nat) (common : UInt8) : UInt8 :=
  (alphas.extract 0 width).foldl (fun common alpha => common &&& alpha) common

def writeRows (plane : Array UInt8) (y : Nat) :
    Nat → UInt8 → Bitmap → Except Failure Transparency × Bitmap
  | 0, common, bitmap => (.ok (Transparency.ofCommonAlpha common), bitmap)
  | count + 1, common, bitmap =>
      let width := bitmap.width
      let start := (alphaStart width (UInt32.ofNat y)).toNat
      let stop := (alphaStop width (UInt32.ofNat y)).toNat
      if start ≤ stop ∧ stop ≤ plane.size then
        let alphas := plane.extract start stop
        if bitmap.hasRow (UInt32.ofNat y) then
          writeRows plane (y + 1) count (commonBits alphas width.toNat common)
            (bitmap.changeRow (setAlphas alphas) y)
        else (.error .panicked, bitmap)
      else (.error .panicked, bitmap)

def Mask.check (mask : Mask) (bitmap : Bitmap) : Except Failure Unit :=
  let header := mask.header
  if header.width ≠ bitmap.width ∨ header.height ≠ bitmap.height then
    .error (.refused (.validation
      (.maskSizeMismatch header.width header.height bitmap.width bitmap.height)))
  else if 8 < header.depth then .error (.refused (.unsupported (.pngDepth header.depth)))
  else .ok ()

def Mask.apply (mask : Mask) (bitmap : Bitmap) : Except Failure Transparency × Bitmap :=
  match mask.check bitmap with
  | .error failure => (.error failure, bitmap)
  | .ok () =>
      match mask.alphas with
      | .error failure => (.error failure, bitmap)
      | .ok plane => writeRows plane 0 mask.header.height.toNat 0xff bitmap

def overlayAlpha (decoder : Decoder) (limit : UInt64) (bitmap : Bitmap) (stream : Stream) :
    Except Failure Transparency × Bitmap × Stream :=
  match decoder.rows limit stream with
  | (none, rest) => (.error (.refused (.during .pngHeader)), bitmap, rest)
  | (some mask, rest) =>
      let (outcome, bitmap) := mask.apply bitmap
      (outcome, bitmap, rest)

end Raster.Png
