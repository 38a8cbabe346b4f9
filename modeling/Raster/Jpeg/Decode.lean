import Raster.Bitmap
import Raster.Jpeg.Decoder
import Raster.Limits

/-!
Loading of JPEG images: a decoder reads the header and the samples, and the samples are laid into a
bitmap row by row. Images have one channel of gray or three of colour.
-/

namespace Raster.Jpeg

def aborted : Failure := .refused (.during .jpegDecoding)

def verifyHeader (decoder : Decoder) (stream : Stream) : Except Failure Unit × Input :=
  match decoder.readInfo none (.ofStream stream) with
  | (none, input) => (.error aborted, input)
  | (some _, input) => (.ok (), input)

def PixelFormat.channels? : PixelFormat → Option Nat
  | .gray8 => some 1
  | .rgb24 => some 3
  | _ => none

def samplePixel? (channels : Nat) (row : Array UInt8) (column : Nat) : Option Pixel :=
  if channels = 1 then row[column]?.map fun value => Pixel.solid value value value
  else do
    return Pixel.solid (← row[3 * column]?) (← row[3 * column + 1]?) (← row[3 * column + 2]?)

/-- Lays rows of samples into a bitmap from row `y` on; each takes `length` bytes of the data. -/
def layRows (channels length : Nat) (data : Array UInt8) (y : Nat) :
    Nat → Bitmap → Except Failure Bitmap
  | 0, bitmap => .ok bitmap
  | count + 1, bitmap =>
      let row := data.extract (y * length) ((y + 1) * length)
      match bitmap.mapRow? (UInt32.ofNat y)
          fun column old => (samplePixel? channels row column).getD old with
      | none => .error .panicked
      | some bitmap => layRows channels length data (y + 1) count bitmap

/-- The bitmap of an image from its samples. Rows behind the last one are left alone. -/
def Info.toBitmap (info : Info) (channels : Nat) (data : Array UInt8) : Except Failure Bitmap := do
  let length := info.width.toNat * channels
  if data.size < length * info.height.toNat then
    throw (.refused (.decode .jpegImageShort))
  let bitmap ← Bitmap.withSize info.width.toUInt32 info.height.toUInt32
  layRows channels length data 0 (min info.height.toNat (data.size / length)) bitmap

def Info.check (info : Info) (limits : Limits) : Except Failure Nat := do
  limits.checkDimensions info.width.toUInt32 info.height.toUInt32
  match info.format.channels? with
  | some channels => return channels
  | none => throw (.refused (.unsupported (.jpegPixelBytes info.format.bytes)))

def readBitmap (decoder : Decoder) (limits : Limits) (stream : Stream) :
    Except Failure Bitmap × Input :=
  match decoder.readInfo (some limits.maxDecodeBytes) (.ofStream stream) with
  | (none, input) => (.error aborted, input)
  | (some state, input) =>
      match decoder.info state with
      | none => (.error (.refused (.decode .jpegFrameMissing)), input)
      | some info =>
          match info.check limits with
          | .error failure => (.error failure, input)
          | .ok channels =>
              match decoder.decode state input with
              | (none, rest) => (.error aborted, rest)
              | (some data, rest) => (info.toBitmap channels data, rest)

end Raster.Jpeg
