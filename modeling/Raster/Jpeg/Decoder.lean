import Raster.Jpeg.Input

/-!
What the library asks of a JPEG decoder. Decoders are not part of the library: whatever it does
holds for every decoder that has this interface.
-/

namespace Raster.Jpeg

inductive PixelFormat where
  | gray8
  | gray16
  | rgb24
  | cmyk32
deriving DecidableEq, Repr

def PixelFormat.bytes : PixelFormat → Nat
  | .gray8 => 1
  | .gray16 => 2
  | .rgb24 => 3
  | .cmyk32 => 4

structure Info where
  width : UInt16
  height : UInt16
  format : PixelFormat
deriving DecidableEq, Repr

/-- A decoder works on its input by requests for bytes only. Work that gives nothing was aborted. -/
structure Decoder where
  /-- What the decoder keeps of the data between one call and the next. -/
  State : Type
  /-- Reads the header; a bound on the size of buffers may have been set before. -/
  readInfo : Option UInt64 → Input → Option State × Input
  info : State → Option Info
  decode : State → Input → Option (Array UInt8) × Input
  readInfo_reads : ∀ limit input, ∃ requests, (readInfo limit input).2 = input.after requests
  decode_reads : ∀ state input, ∃ requests, (decode state input).2 = input.after requests

end Raster.Jpeg
