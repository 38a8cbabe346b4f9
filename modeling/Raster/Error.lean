/-!
Failures of the library, by cause. Every failure has a kind and one line of text; `Error.message`
holds all of the wording.
-/

namespace Raster

inductive ValidationCause where
  | strideBelowWidth
  | pixelCountMismatch
  | overLimit (width height : UInt32) (bytes limit : UInt64)
  | maskSizeMismatch (maskWidth maskHeight width height : UInt32)
  | unrecognisedFormat
  | stated (text : String)
deriving DecidableEq, Repr

inductive DibPart where
  | fileHeader
  | infoHeader
  | colourMasks
  | pixelData
deriving DecidableEq, Repr

inductive DecodeCause where
  | emptyDimensions (width height : UInt32)
  | dibTruncated (part : DibPart)
  | dibSignatureMissing
  | dibHeaderSizeUnknown (size : UInt32)
  | dibHeadersOverlap
  | dibPlaneCount
  | dibEmptyDimensions
  | jpegFrameMissing
  | jpegImageShort
  | pngSignatureTruncated
  | pngSignatureMissing
  | pngEndedEarly
  | pngRowShort
  | paletteIndexOutOfRange
  | stated (text : String)
deriving DecidableEq, Repr

inductive UnsupportedCause where
  | coreDibBits (bits : UInt16)
  | dibLayout (bits : UInt16) (compression : UInt32)
  | scatteredMask
  | jpegPixelBytes (count : Nat)
  | pngDepth (bits : Nat)
  | stated (text : String)
deriving DecidableEq, Repr

inductive Activity where
  | optionsText
  | jpegDecoding
  | pngDecoding
  | pngHeader
  | pngRow
  | dibPosition
  | dibSeek
  | stated (text : String)
deriving DecidableEq, Repr

inductive Error where
  | validation (cause : ValidationCause)
  | decode (cause : DecodeCause)
  | unsupported (cause : UnsupportedCause)
  | during (activity : Activity)
deriving DecidableEq, Repr

/-- Why work ends without a value. It comes back with an error, or it panics: it asks for a place
outside of some storage, for a number outside of its range, or for more memory than an allocation
may have. -/
inductive Failure where
  | refused (error : Error)
  | panicked
deriving DecidableEq, Repr

def ValidationCause.message : ValidationCause → String
  | .strideBelowWidth => "rowpixels must be >= width"
  | .pixelCountMismatch => "bitmap pixels must match width*height"
  | .overLimit width height bytes limit =>
      s!"{width}x{height} image needs {bytes} bytes, limit is {limit}"
  | .maskSizeMismatch maskWidth maskHeight width height =>
      s!"alpha PNG is {maskWidth}x{maskHeight}, bitmap is {width}x{height}"
  | .unrecognisedFormat => "unrecognised image format"
  | .stated text => text

def DibPart.name : DibPart → String
  | .fileHeader => "file header"
  | .infoHeader => "info header"
  | .colourMasks => "colour masks"
  | .pixelData => "pixel data"

def DecodeCause.message : DecodeCause → String
  | .emptyDimensions width height => s!"image has empty dimensions {width}x{height}"
  | .dibTruncated part => "truncated DIB " ++ part.name
  | .dibSignatureMissing => "missing BM signature"
  | .dibHeaderSizeUnknown size => s!"unknown DIB header size {size}"
  | .dibHeadersOverlap => "DIB pixel data overlaps the headers"
  | .dibPlaneCount => "DIB must have exactly one plane"
  | .dibEmptyDimensions => "DIB has empty dimensions"
  | .jpegFrameMissing => "JPEG header has no frame"
  | .jpegImageShort => "JPEG decoder returned a short image"
  | .pngSignatureTruncated => "truncated PNG signature"
  | .pngSignatureMissing => "missing PNG signature"
  | .pngEndedEarly => "PNG image data ended early"
  | .pngRowShort => "short PNG row"
  | .paletteIndexOutOfRange => "PNG palette index out of range"
  | .stated text => text

def UnsupportedCause.message : UnsupportedCause → String
  | .coreDibBits bits => s!"{bits}-bit core DIB"
  | .dibLayout bits compression => s!"{bits}-bit DIB with compression {compression}"
  | .scatteredMask => "non-contiguous DIB colour mask"
  | .jpegPixelBytes count => s!"JPEG output with {count} bytes per pixel"
  | .pngDepth bits => s!"bit depth {bits} (8 bit max)"
  | .stated text => text

def Activity.message : Activity → String
  | .optionsText => "parse loader options JSON"
  | .jpegDecoding => "JPEG decoder aborted"
  | .pngDecoding => "decode PNG image"
  | .pngHeader => "read PNG header"
  | .pngRow => "decode PNG row"
  | .dibPosition => "query DIB stream position"
  | .dibSeek => "seek to DIB pixel data"
  | .stated text => text

def Error.message : Error → String
  | .validation cause => "validation error: " ++ cause.message
  | .decode cause => "decode error: " ++ cause.message
  | .unsupported cause => "unsupported image: " ++ cause.message
  | .during activity => activity.message

end Raster
