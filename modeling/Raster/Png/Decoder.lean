import Raster.Png.Header
import Raster.Stream

/-!
What the library asks of a PNG decoder. Decoders are not part of the library: whatever it does holds
for every decoder that has this interface.
-/

namespace Raster.Png

def signature : Array UInt8 := #[0x89, 0x50, 0x4e, 0x47, 0x0d, 0x0a, 0x1a, 0x0a]

structure Rgba where
  red : UInt8
  green : UInt8
  blue : UInt8
  alpha : UInt8
deriving DecidableEq, Repr

/-- A whole image with eight bits to a channel, as a decoder announces and delivers it. -/
structure Image where
  width : UInt32
  height : UInt32
  pixels : Array Rgba
deriving DecidableEq, Repr

/-- What comes of asking for a row behind the last one. -/
inductive RowsEnd where
  | exhausted
  | damaged
deriving DecidableEq, Repr

/-- An image that is read row by row: what its header says, and what each request for a row
gives. -/
structure Mask where
  header : Header
  palette : Array UInt8
  rows : List (Array UInt8)
  rowsEnd : RowsEnd
deriving DecidableEq, Repr

/-- Both ways of reading take a number of bytes that they may use, and give none if it fails. -/
structure Decoder where
  image : UInt64 → Stream → Option Image × Stream
  rows : UInt64 → Stream → Option Mask × Stream

end Raster.Png
