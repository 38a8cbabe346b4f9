/-!
Interlacing: an image is stored as one pass or as seven, each a smaller image made of every so
manieth row and column.
-/

namespace Raster.Png

/-- A pass takes every `2 ^ shift`-th column and row; the bias fixes which one it begins with. -/
structure Pass where
  biasX : UInt32
  biasY : UInt32
  shiftX : UInt32
  shiftY : UInt32
deriving DecidableEq, Repr

namespace Pass

def single : Pass := ⟨0, 0, 0, 0⟩

def seven : List Pass := [
  ⟨7, 7, 3, 3⟩, ⟨3, 7, 3, 3⟩, ⟨3, 3, 2, 3⟩, ⟨1, 3, 2, 2⟩,
  ⟨1, 1, 1, 2⟩, ⟨0, 1, 1, 1⟩, ⟨0, 0, 0, 1⟩]

def all (interlaced : Bool) : List Pass := if interlaced then seven else [single]

def width (pass : Pass) (imageWidth : UInt32) : UInt32 := (imageWidth + pass.biasX) >>> pass.shiftX

def height (pass : Pass) (imageHeight : UInt32) : UInt32 :=
  (imageHeight + pass.biasY) >>> pass.shiftY

def imageX (pass : Pass) (x : UInt32) : UInt32 :=
  (x <<< pass.shiftX) + ((1 <<< pass.shiftX) - pass.biasX - 1)

def imageY (pass : Pass) (y : UInt32) : UInt32 :=
  (y <<< pass.shiftY) + ((1 <<< pass.shiftY) - pass.biasY - 1)

def isEmpty (pass : Pass) (imageWidth imageHeight : UInt32) : Bool :=
  pass.width imageWidth == 0 || pass.height imageHeight == 0

end Pass

end Raster.Png
