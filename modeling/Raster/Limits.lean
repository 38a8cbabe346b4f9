import Raster.Error

/-!
Limits that a caller sets on decoding.
-/

namespace Raster

structure Limits where
  /-- Largest number of bytes a decoded image may take, four to a pixel. -/
  maxDecodeBytes : UInt64
deriving DecidableEq, Repr

namespace Limits

def standard : Limits := ⟨134217728⟩

instance : Inhabited Limits := ⟨standard⟩

def imageBytes (width height : UInt32) : UInt64 := width.toUInt64 * height.toUInt64 * 4

def checkDimensions (limits : Limits) (width height : UInt32) : Except Failure Unit :=
  if width = 0 ∨ height = 0 then .error (.refused (.decode (.emptyDimensions width height)))
  else if limits.maxDecodeBytes < imageBytes width height then
    .error (.refused (.validation
      (.overLimit width height (imageBytes width height) limits.maxDecodeBytes)))
  else .ok ()

end Limits

end Raster
