import Raster.Bitmap

/-!
Whether an image has pixels that are not fully opaque.
-/

namespace Raster

inductive Transparency where
  | solid
  | translucent
deriving DecidableEq, Repr

namespace Transparency

/-- Judges by the bits that all alpha values have in common. -/
def ofCommonAlpha (common : UInt8) : Transparency :=
  if common = 0xff then .solid else .translucent

def isTranslucent : Transparency → Bool
  | .solid => false
  | .translucent => true

def commonAlpha (pixels : Array Pixel) (common : UInt8) : UInt8 :=
  pixels.foldl (fun common pixel => common &&& pixel.alpha) common

end Transparency

def Bitmap.commonAlpha (bitmap : Bitmap) : UInt8 :=
  (List.range bitmap.height.toNat).foldl
    (fun common y => Transparency.commonAlpha ((bitmap.row? (UInt32.ofNat y)).getD #[]) common) 0xff

def Bitmap.transparency (bitmap : Bitmap) : Transparency :=
  Transparency.ofCommonAlpha bitmap.commonAlpha

end Raster
