/-!
Pixels: four eight-bit channels packed into one word, alpha in the top byte.
-/

namespace Raster

structure Pixel where
  word : UInt32
deriving DecidableEq, Repr

namespace Pixel

def transparent : Pixel := ⟨0⟩

instance : Inhabited Pixel := ⟨transparent⟩

def ofChannels (alpha red green blue : UInt8) : Pixel :=
  ⟨(alpha.toUInt32 <<< 24) ||| (red.toUInt32 <<< 16) ||| (green.toUInt32 <<< 8) ||| blue.toUInt32⟩

def solid (red green blue : UInt8) : Pixel := ofChannels 0xff red green blue

def alpha (pixel : Pixel) : UInt8 := (pixel.word >>> 24).toUInt8

def red (pixel : Pixel) : UInt8 := (pixel.word >>> 16).toUInt8

def green (pixel : Pixel) : UInt8 := (pixel.word >>> 8).toUInt8

def blue (pixel : Pixel) : UInt8 := pixel.word.toUInt8

def withAlpha (pixel : Pixel) (alpha : UInt8) : Pixel :=
  ⟨(pixel.word &&& (0x00ffffff : UInt32)) ||| (alpha.toUInt32 <<< 24)⟩

/-- Weighted mean of the colour channels in thousandths, alpha left out. -/
def brightness (pixel : Pixel) : UInt8 :=
  ((pixel.red.toUInt32 * 222 + pixel.green.toUInt32 * 707 + pixel.blue.toUInt32 * 71)
    / 1000).toUInt8

end Pixel

end Raster
