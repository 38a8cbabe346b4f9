import Raster.Bitmap
import Raster.Tint

/-!
Resampling: a source bitmap scaled to fill a destination, tinted and laid over what the
destination holds. Positions and steps count in 4096ths of a source pixel. Shrinking averages
whole areas, whole multiples repeat pixels, and anything else is filtered between four neighbours.
-/

namespace Raster

inductive Strategy where
  | average
  | replicate
  | bilinear
deriving DecidableEq, Repr

namespace Resample

def unit : UInt32 := 4096

/-- Quotient in 4096ths rounded down; what does not fit a word becomes the largest word. -/
def ratioFloor (numerator denominator : UInt32) : UInt32 :=
  UInt32.ofNat (min (numerator.toNat * 4096 / denominator.toNat) 0xffffffff)

def ratioCeil (numerator denominator : UInt32) : UInt32 :=
  UInt32.ofNat
    (min ((numerator.toNat * 4096 + denominator.toNat - 1) / denominator.toNat) 0xffffffff)

/-- The strategy for given sizes. Without pixels on either side nothing will be drawn. -/
def strategy (sourceWidth sourceHeight width height : UInt32) (forceAverage : Bool) : Strategy :=
  if sourceWidth = 0 ∨ sourceHeight = 0 ∨ width = 0 ∨ height = 0 then .average
  else if unit < ratioFloor sourceWidth width ∨ unit < ratioFloor sourceHeight height
      ∨ forceAverage = true then .average
  else if width % sourceWidth = 0 ∧ height % sourceHeight = 0 then .replicate
  else .bilinear

structure Sums where
  alpha : UInt64
  red : UInt64
  green : UInt64
  blue : UInt64
deriving DecidableEq, Repr

namespace Sums

def zero : Sums := ⟨0, 0, 0, 0⟩

def add (sums : Sums) (weight : UInt64) (pixel : Pixel) : Sums :=
  ⟨sums.alpha + weight * pixel.alpha.toUInt64, sums.red + weight * pixel.red.toUInt64,
    sums.green + weight * pixel.green.toUInt64, sums.blue + weight * pixel.blue.toUInt64⟩

def divide (sums : Sums) (scale : UInt64) : Sample :=
  ⟨(sums.alpha / scale).toUInt32, (sums.red / scale).toUInt32,
    (sums.green / scale).toUInt32, (sums.blue / scale).toUInt32⟩

end Sums

def toBoundary (position : UInt32) : UInt32 := unit - (position &&& (0xfff : UInt32))

/-- From a position to the next source pixel boundary, or to the end of the area. -/
def chunk (position remaining : UInt32) : UInt32 :=
  if toBoundary position ≤ remaining then toBoundary position else remaining

theorem toNat_toBoundary (position : UInt32) :
    (toBoundary position).toNat = 4096 - position.toNat % 4096 := by
  have masked : (position &&& (0xfff : UInt32)).toNat = position.toNat % 4096 := by
    rw [UInt32.toNat_and]
    exact Nat.and_two_pow_sub_one_eq_mod position.toNat 12
  have bound : (position &&& (0xfff : UInt32)) ≤ unit := by
    rw [UInt32.le_iff_toNat_le, masked]
    have small := Nat.mod_lt position.toNat (show 0 < 4096 by omega)
    simp only [unit, UInt32.reduceToNat]
    omega
  rw [toBoundary, UInt32.toNat_sub_of_le _ _ bound, masked]
  rfl

theorem toNat_chunk (position remaining : UInt32) :
    (chunk position remaining).toNat =
      min (4096 - position.toNat % 4096) remaining.toNat := by
  unfold chunk
  split
  · rename_i bound
    have := UInt32.le_iff_toNat_le.mp bound
    rw [toNat_toBoundary] at this ⊢
    omega
  · rename_i bound
    have := mt UInt32.le_iff_toNat_le.mpr bound
    rw [toNat_toBoundary] at this
    omega

theorem remaining_decreases (position remaining : UInt32) (more : remaining ≠ 0) :
    (remaining - chunk position remaining).toNat < remaining.toNat := by
  have nonzero : remaining.toNat ≠ 0 := fun zero => more (UInt32.toNat_inj.mp (by simpa using zero))
  have size := toNat_chunk position remaining
  have small := Nat.mod_lt position.toNat (show 0 < 4096 by omega)
  rw [UInt32.toNat_sub_of_le _ _ (UInt32.le_iff_toNat_le.mpr (by omega))]
  omega

def sumColumns (source : Bitmap) (row : UInt32) (rowChunk : UInt32) (position remaining : UInt32)
    (sums : Sums) : Sums :=
  if remaining = 0 then sums
  else
    let columnChunk := chunk position remaining
    let column := min (position >>> 12) (source.width - 1)
    let pixel := source.pixelAt row.toNat column.toNat
    sumColumns source row rowChunk (position + columnChunk) (remaining - columnChunk)
      (sums.add (columnChunk.toUInt64 * rowChunk.toUInt64) pixel)
termination_by remaining.toNat
decreasing_by exact remaining_decreases position remaining (by assumption)

def sumRows (source : Bitmap) (start step : UInt32) (position remaining : UInt32)
    (sums : Sums) : Sums :=
  if remaining = 0 then sums
  else
    let rowChunk := chunk position remaining
    let row := min (position >>> 12) (source.height - 1)
    sumRows source start step (position + rowChunk) (remaining - rowChunk)
      (sumColumns source row rowChunk start step sums)
termination_by remaining.toNat
decreasing_by exact remaining_decreases position remaining (by assumption)

def averageSample (source : Bitmap) (stepX stepY : UInt32) (y x : UInt32) : Sample :=
  (sumRows source (x * stepX) stepX (y * stepY) stepY Sums.zero).divide
    (stepX.toUInt64 * stepY.toUInt64)

def replicateSample (source : Bitmap) (width height : UInt32) (y x : Nat) : Sample :=
  (source.pixelAt (y * source.height.toNat / height.toNat)
    (x * source.width.toNat / width.toNat)).toSample

/-- Centre of a destination pixel carried back to the source, half a pixel up or left of it. -/
def backProject (step : UInt32) (index : Nat) : Int :=
  (index * step.toNat + step.toNat / 2 : Nat) - 2048

def tap (source : Bitmap) (y x : Int) : Pixel :=
  if 0 ≤ x ∧ x < source.width.toNat * 4096 ∧ 0 ≤ y ∧ y < source.height.toNat * 4096 then
    source.pixelAt (y / 4096).toNat (x / 4096).toNat
  else Pixel.transparent

def weighTaps (channel : Pixel → UInt8) (nearLeft nearRight farLeft farRight : Pixel)
    (fractionY fractionX : Nat) : UInt32 :=
  UInt32.ofNat
    (((4096 - fractionX) * (4096 - fractionY) * (channel nearLeft).toNat
      + fractionX * (4096 - fractionY) * (channel nearRight).toNat
      + (4096 - fractionX) * fractionY * (channel farLeft).toNat
      + fractionX * fractionY * (channel farRight).toNat) / 16777216)

def bilinearSample (source : Bitmap) (stepX stepY : UInt32) (y x : Nat) : Sample :=
  let positionY := backProject stepY y
  let positionX := backProject stepX x
  let fractionY := (positionY % 4096).toNat
  let fractionX := (positionX % 4096).toNat
  let nearLeft := tap source positionY positionX
  let nearRight := tap source positionY (positionX + 4096)
  let farLeft := tap source (positionY + 4096) positionX
  let farRight := tap source (positionY + 4096) (positionX + 4096)
  let weigh (channel : Pixel → UInt8) :=
    weighTaps channel nearLeft nearRight farLeft farRight fractionY fractionX
  ⟨weigh Pixel.alpha, weigh Pixel.red, weigh Pixel.green, weigh Pixel.blue⟩

def sample (source : Bitmap) (width height : UInt32) : Strategy → Nat → Nat → Sample
  | .average, y, x =>
      averageSample source (max (ratioFloor source.width width) 1)
        (max (ratioFloor source.height height) 1) (UInt32.ofNat y) (UInt32.ofNat x)
  | .replicate, y, x => replicateSample source width height y x
  | .bilinear, y, x =>
      bilinearSample source (ratioCeil source.width width) (ratioCeil source.height height) y x

end Resample

/--
Scales `source` over the whole of `destination`. Without pixels on either side nothing happens.
-/
def resample (destination source : Bitmap) (tint : Tint) (forceAverage : Bool) : Bitmap :=
  if destination.valid && source.valid then
    let factors := tint.factors
    let width := destination.width
    let height := destination.height
    let strategy := Resample.strategy source.width source.height width height forceAverage
    destination.mapVisible fun y x old =>
      factors.compose (Resample.sample source width height strategy y x) old
  else destination

end Raster
