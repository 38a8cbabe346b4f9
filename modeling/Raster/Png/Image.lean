import Raster.Limits
import Raster.Png.Decoder
import Raster.Transparency

/-!
Loading of whole PNG images, and the check of their signature.
-/

namespace Raster.Png

def verifyHeader (stream : Stream) : Except Failure Unit × Stream :=
  match stream.readExactly 8 #[] with
  | (none, rest) => (.error (.refused (.decode .pngSignatureTruncated)), rest)
  | (some bytes, rest) =>
      (if bytes = signature then .ok () else .error (.refused (.decode .pngSignatureMissing)), rest)

def Rgba.toPixel (rgba : Rgba) : Pixel :=
  Pixel.ofChannels rgba.alpha rgba.red rgba.green rgba.blue

def Image.toPixels (image : Image) : Array Pixel × UInt8 :=
  (image.pixels.map Rgba.toPixel,
    image.pixels.foldl (fun common rgba => common &&& rgba.alpha) 0xff)

def Image.toBitmap (image : Image) (limits : Limits) : Except Failure (Bitmap × Transparency) := do
  limits.checkDimensions image.width image.height
  let (pixels, common) := image.toPixels
  let bitmap ← Bitmap.ofPixels image.width image.height pixels
  return (bitmap, Transparency.ofCommonAlpha common)

def readBitmap (decoder : Decoder) (limits : Limits) (stream : Stream) :
    Except Failure (Bitmap × Transparency) × Stream :=
  match decoder.image limits.maxDecodeBytes stream with
  | (none, rest) => (.error (.refused (.during .pngDecoding)), rest)
  | (some image, rest) => (image.toBitmap limits, rest)

end Raster.Png
