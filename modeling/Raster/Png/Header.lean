/-!
Image headers of PNG data: size, sample depth, colour type and interlacing.
-/

namespace Raster.Png

inductive ColourType where
  | palette
  | gray
  | grayAlpha
  | truecolour
  | truecolourAlpha
deriving DecidableEq, Repr

namespace ColourType

def samples : ColourType → Nat
  | .palette => 1
  | .gray => 1
  | .grayAlpha => 2
  | .truecolour => 3
  | .truecolourAlpha => 4

def depths : ColourType → List Nat
  | .gray => [1, 2, 4, 8, 16]
  | .palette => [1, 2, 4, 8]
  | _ => [8, 16]

end ColourType

structure Header where
  width : UInt32
  height : UInt32
  depth : Nat
  colour : ColourType
  interlaced : Bool
deriving DecidableEq, Repr

end Raster.Png
