import Raster.Proofs.Resample.Area

/-!
Steps of a resampling run: how far in the source, in 4096ths of a pixel, one destination pixel is
from the next. Steps never reach past what the source has, and where sides stay the same they are
exactly one pixel.
-/

namespace Raster.Resample

theorem toNat_ratioFloor (numerator denominator : UInt32) :
    (ratioFloor numerator denominator).toNat =
      min (4096 * numerator.toNat / denominator.toNat) 0xffffffff := by
  rw [ratioFloor, Nat.mul_comm numerator.toNat]
  exact UInt32.toNat_ofNat_of_lt' (Nat.lt_succ_of_le (Nat.min_le_right _ _))

theorem toNat_ratioCeil (numerator denominator : UInt32) :
    (ratioCeil numerator denominator).toNat =
      min ((4096 * numerator.toNat + denominator.toNat - 1) / denominator.toNat) 0xffffffff := by
  rw [ratioCeil, Nat.mul_comm numerator.toNat]
  exact UInt32.toNat_ofNat_of_lt' (Nat.lt_succ_of_le (Nat.min_le_right _ _))

section Unscaled

variable {side : UInt32} (filled : 0 < side.toNat)

include filled

theorem ratioFloor_self : ratioFloor side side = 4096 := by
  rw [← UInt32.toNat_inj, toNat_ratioFloor, Nat.mul_div_cancel _ filled]
  rfl

theorem ratioCeil_self : ratioCeil side side = 4096 := by
  have whole : (4096 * side.toNat + side.toNat - 1) / side.toNat = 4096 := by
    rw [Nat.add_sub_assoc filled, Nat.mul_comm, Nat.mul_add_div filled,
      Nat.div_eq_of_lt (Nat.sub_lt filled Nat.one_pos)]
  rw [← UInt32.toNat_inj, toNat_ratioCeil, whole]
  rfl

end Unscaled

def averageStep (side count : UInt32) : UInt32 := max (ratioFloor side count) 1

theorem toNat_averageStep (side count : UInt32) :
    (averageStep side count).toNat =
      max (min (4096 * side.toNat / count.toNat) 0xffffffff) 1 := by
  rw [averageStep, UInt32.toNat_max, toNat_ratioFloor]
  rfl

theorem averageStep_pos (side count : UInt32) : 0 < (averageStep side count).toNat := by
  rw [toNat_averageStep]
  omega

theorem averageStep_le {side : UInt32} (filled : 0 < side.toNat) (count : UInt32) :
    (averageStep side count).toNat ≤ 4096 * side.toNat := by
  have quotient := Nat.div_le_self (4096 * side.toNat) count.toNat
  rw [toNat_averageStep]
  omega

theorem averageStep_self {side : UInt32} (filled : 0 < side.toNat) :
    averageStep side side = 4096 := by
  rw [averageStep, ratioFloor_self filled]
  rfl

/-- The length in 4096ths of a share of a side: rounded down, but at least one. -/
def areaSide (side count : UInt32) : Nat := max 1 (4096 * side.toNat / count.toNat)

theorem areaSide_pos (side count : UInt32) : 0 < areaSide side count :=
  Nat.lt_of_lt_of_le Nat.one_pos (Nat.le_max_left _ _)

section Short

variable {side : UInt32} (short : side.toNat < 2 ^ 20)

include short

theorem toNat_averageStep_of_short (count : UInt32) :
    (averageStep side count).toNat = areaSide side count := by
  have quotient := Nat.div_le_self (4096 * side.toNat) count.toNat
  rw [toNat_averageStep, areaSide]
  omega

theorem end_of_area_lt {count : UInt32} {index : Nat} (below : index < count.toNat) :
    (index + 1) * (averageStep side count).toNat < 2 ^ 32 := by
  have last : (index + 1) * (averageStep side count).toNat ≤
      count.toNat * (averageStep side count).toNat := Nat.mul_le_mul_right _ below
  have whole := Nat.mul_div_le (4096 * side.toNat) count.toNat
  have word := count.toNat_lt
  refine Nat.lt_of_le_of_lt last ?_
  rw [toNat_averageStep_of_short short, areaSide]
  by_cases fine : 4096 * side.toNat / count.toNat ≤ 1
  · rw [Nat.max_eq_left fine]
    omega
  · rw [Nat.max_eq_right (by omega)]
    omega

end Short

theorem average_weight_lt {width height : UInt32} (hasColumns : 0 < width.toNat)
    (hasRows : 0 < height.toNat) (pixels : width.toNat * height.toNat ≤ 2 ^ 32)
    (columns rows : UInt32) :
    255 * ((averageStep height rows).toNat * (averageStep width columns).toNat) < 2 ^ 64 := by
  have area : (averageStep height rows).toNat * (averageStep width columns).toNat ≤
      4096 * height.toNat * (4096 * width.toNat) :=
    Nat.mul_le_mul (averageStep_le hasRows rows) (averageStep_le hasColumns columns)
  have split : 4096 * height.toNat * (4096 * width.toNat) =
      16777216 * (width.toNat * height.toNat) := by
    rw [Nat.mul_mul_mul_comm, Nat.mul_comm height.toNat]
  omega

theorem sample_average (source : Bitmap) (width height : UInt32) (y x : Nat) :
    sample source width height .average y x =
      averageSample source (averageStep source.width width) (averageStep source.height height)
        (UInt32.ofNat y) (UInt32.ofNat x) := rfl

end Raster.Resample
