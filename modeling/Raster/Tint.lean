import Raster.Pixel

/-!
Tints: a colour in floating point that scales sampled pixels, and its fixed-point form. The
fixed-point factors are premultiplied by the tint's alpha and count in 256ths, so 256 keeps a
channel as it is.
-/

namespace Raster

structure Tint where
  alpha : Float32
  red : Float32
  green : Float32
  blue : Float32

namespace Tint

def white : Tint := ⟨1.0, 1.0, 1.0, 1.0⟩

instance : Inhabited Tint := ⟨white⟩

def clampUnit (value : Float32) : Float32 :=
  if value < 0.0 then 0.0 else if 1.0 < value then 1.0 else value

/-- Number of whole 256ths in a value of the unit interval; anything not finite counts as zero. -/
def toFactor (value : Float32) : UInt32 :=
  if value.isFinite then (clampUnit value * 256.0).toUInt32 else 0

structure Factors where
  alpha : UInt32
  red : UInt32
  green : UInt32
  blue : UInt32
deriving DecidableEq, Repr

def factors (tint : Tint) : Factors :=
  let alpha := clampUnit tint.alpha
  { alpha := toFactor alpha
    red := toFactor (clampUnit tint.red * alpha)
    green := toFactor (clampUnit tint.green * alpha)
    blue := toFactor (clampUnit tint.blue * alpha) }

end Tint

structure Sample where
  alpha : UInt32
  red : UInt32
  green : UInt32
  blue : UInt32
deriving DecidableEq, Repr

def Pixel.toSample (pixel : Pixel) : Sample :=
  ⟨pixel.alpha.toUInt32, pixel.red.toUInt32, pixel.green.toUInt32, pixel.blue.toUInt32⟩

def clampByte (value : UInt32) : UInt8 := (if value ≤ 255 then value else 255).toUInt8

/--
One channel of a tinted sample laid over an old value. With an alpha factor of 256 or more the old
value is covered; below that it shows through the rest.
-/
def blendChannel (factor alphaFactor sample old : UInt32) : UInt32 :=
  if alphaFactor < 256 then sample * factor / 256 + old * (256 - alphaFactor) / 256
  else sample * factor / 256

def Tint.Factors.compose (factors : Tint.Factors) (sample : Sample) (old : Pixel) : Pixel :=
  Pixel.ofChannels
    (clampByte (blendChannel factors.alpha factors.alpha sample.alpha old.alpha.toUInt32))
    (clampByte (blendChannel factors.red factors.alpha sample.red old.red.toUInt32))
    (clampByte (blendChannel factors.green factors.alpha sample.green old.green.toUInt32))
    (clampByte (blendChannel factors.blue factors.alpha sample.blue old.blue.toUInt32))

end Raster
