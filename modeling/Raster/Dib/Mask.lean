/-!
Channel masks of 32-bit pixels: runs of adjacent bits, and the values they cut out of a pixel.
-/

namespace Raster.Dib

/-- A run of adjacent bits: where it starts, and the largest value it can hold. -/
structure Mask where
  bits : UInt32
  shift : UInt32
  largest : UInt32
deriving DecidableEq, Repr

namespace Mask

def lowestBit (word : UInt32) : Nat :=
  (List.range 32).findIdx fun index => word.toNat.testBit index

def ofWord? (word : UInt32) : Option Mask :=
  if word = 0 then none
  else
    let shift := UInt32.ofNat (lowestBit word)
    let largest := word >>> shift
    if largest &&& (largest + 1) = 0 then some ⟨word, shift, largest⟩ else none

def field (mask : Mask) (value : UInt32) : UInt32 := (value &&& mask.bits) >>> mask.shift

/-- The masked field scaled so that the largest one becomes 255, rounded to the nearest. -/
def scaled (mask : Mask) (value : UInt32) : UInt64 :=
  ((mask.field value).toUInt64 * 255 + mask.largest.toUInt64 / 2) / mask.largest.toUInt64

def extract (mask : Mask) (value : UInt32) : UInt8 := (mask.scaled value).toUInt8

end Mask

end Raster.Dib
