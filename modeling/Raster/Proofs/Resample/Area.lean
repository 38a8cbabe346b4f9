import Mathlib.Algebra.BigOperators.Group.Finset.Sigma
import Mathlib.Algebra.Order.BigOperators.Group.Finset
import Raster.Proofs.Resample.Local

/-!
Area averages as plain sums. A chunk ends where its source pixel does, so the loops add up what each
4096th of the area adds by itself, and rows and columns may change places.
-/

namespace Raster

namespace Resample

/-- What `value` gives for source pixels, summed over all 4096ths of a span. -/
def spanSum (value : UInt32 → Nat) (position remaining : UInt32) : Nat :=
  ∑ offset ∈ Finset.range remaining.toNat, value ((position + UInt32.ofNat offset) >>> 12)

theorem spanSum_zero (value : UInt32 → Nat) (position : UInt32) : spanSum value position 0 = 0 :=
  Finset.sum_range_zero _

section Chunk

variable (position remaining : UInt32)

theorem chunk_le : chunk position remaining ≤ remaining := by
  rw [UInt32.le_iff_toNat_le, toNat_chunk]
  exact Nat.min_le_right _ _

theorem toNat_remaining :
    (chunk position remaining).toNat + (remaining - chunk position remaining).toNat =
      remaining.toNat := by
  have bound := UInt32.le_iff_toNat_le.mp (chunk_le position remaining)
  rw [UInt32.toNat_sub_of_le _ _ (chunk_le position remaining)]
  omega

theorem pixel_in_chunk {offset : Nat} (within : offset < (chunk position remaining).toNat) :
    (position + UInt32.ofNat offset) >>> 12 = position >>> 12 := by
  rw [toNat_chunk] at within
  -- The boundary a chunk stops at divides the size of a word, so a position wraps only there.
  have bound := position.toNat_lt
  simp only [← UInt32.toNat_inj, UInt32.toNat_shiftRight, UInt32.toNat_add, UInt32.toNat_ofNat',
    UInt32.reduceToNat, Nat.reduceMod, Nat.shiftRight_eq_div_pow, Nat.reducePow]
  omega

theorem spanSum_chunk (value : UInt32 → Nat) : spanSum value position remaining =
    (chunk position remaining).toNat * value (position >>> 12) +
      spanSum value (position + chunk position remaining)
        (remaining - chunk position remaining) := by
  have first : ∑ offset ∈ Finset.range (chunk position remaining).toNat,
      value ((position + UInt32.ofNat offset) >>> 12) =
        (chunk position remaining).toNat * value (position >>> 12) := by
    rw [Finset.sum_const_nat (fun offset within => by
      rw [pixel_in_chunk position remaining (Finset.mem_range.mp within)]), Finset.card_range]
  rw [spanSum, ← toNat_remaining position remaining, Finset.sum_range_add, first]
  simp only [spanSum, UInt32.ofNat_add, UInt32.ofNat_toNat, UInt32.add_assoc]

end Chunk

section Bounds

variable {value : UInt32 → Nat} (position remaining : UInt32)

theorem spanSum_le {limit : Nat} (bounded : ∀ place, value place ≤ limit) :
    spanSum value position remaining ≤ remaining.toNat * limit :=
  calc spanSum value position remaining
      ≤ ∑ _ ∈ Finset.range remaining.toNat, limit := Finset.sum_le_sum fun _ _ => bounded _
    _ = remaining.toNat * limit := by
      rw [Finset.sum_const_nat fun _ _ => rfl, Finset.card_range]

theorem spanSum_mono {other : UInt32 → Nat} (ordered : ∀ place, value place ≤ other place) :
    spanSum value position remaining ≤ spanSum other position remaining :=
  Finset.sum_le_sum fun _ _ => ordered _

end Bounds

theorem spanSum_comm (value : UInt32 → UInt32 → Nat) (startY stepY startX stepX : UInt32) :
    spanSum (fun row => spanSum (value row) startX stepX) startY stepY =
      spanSum (fun column => spanSum (fun row => value row column) startY stepY) startX stepX :=
  Finset.sum_comm

end Resample

namespace Channel

open Resample

variable (channel : Channel) (source : Bitmap)

def nearest (row column : UInt32) : Nat :=
  (channel.ofPixel (source.pixelAt (min row (source.height - 1)).toNat
    (min column (source.width - 1)).toNat)).toNat

def areaSum (startY stepY startX stepX : UInt32) : Nat :=
  spanSum (fun row => spanSum (channel.nearest source row) startX stepX) startY stepY

theorem nearest_le (row column : UInt32) : channel.nearest source row column ≤ 255 :=
  Nat.le_of_lt_succ (UInt8.toNat_lt _)

theorem areaSum_le (startY stepY startX stepX : UInt32) :
    channel.areaSum source startY stepY startX stepX ≤ 255 * (stepY.toNat * stepX.toNat) := by
  have rows := spanSum_le startY stepY fun row =>
    spanSum_le startX stepX (channel.nearest_le source row)
  rwa [← Nat.mul_assoc, Nat.mul_comm] at rows

theorem ofSums_sumColumns (row rowChunk position remaining : UInt32) (sums : Sums) :
    channel.ofSums (sumColumns source (min row (source.height - 1)) rowChunk position remaining
        sums) =
      channel.ofSums sums + UInt64.ofNat
        (rowChunk.toNat * spanSum (channel.nearest source row) position remaining) := by
  fun_induction
    sumColumns source (min row (source.height - 1)) rowChunk position remaining sums with
  | case1 position sums =>
      rw [spanSum_zero, Nat.mul_zero]
      exact (UInt64.add_zero _).symm
  | case2 position remaining sums more columnChunk column pixel =>
      rename_i ih
      have weight : columnChunk.toUInt64 * rowChunk.toUInt64 * (channel.ofPixel pixel).toUInt64 =
          UInt64.ofNat (rowChunk.toNat *
            (columnChunk.toNat * channel.nearest source row (position >>> 12))) := by
        change _ = UInt64.ofNat (rowChunk.toNat *
          (columnChunk.toNat * (channel.ofPixel pixel).toNat))
        rw [UInt64.ofNat_mul, UInt64.ofNat_mul, UInt64.ofNat_uInt32ToNat, UInt64.ofNat_uInt32ToNat,
          UInt64.ofNat_uInt8ToNat, ← UInt64.mul_assoc, UInt64.mul_comm rowChunk.toUInt64]
      rw [ih, ofSums_add, spanSum_chunk position remaining, Nat.mul_add, UInt64.ofNat_add, weight,
        UInt64.add_assoc]

theorem ofSums_sumRows (start step position remaining : UInt32) (sums : Sums) :
    channel.ofSums (sumRows source start step position remaining sums) =
      channel.ofSums sums +
        UInt64.ofNat (channel.areaSum source position remaining start step) := by
  fun_induction sumRows source start step position remaining sums with
  | case1 position sums =>
      rw [areaSum, spanSum_zero]
      exact (UInt64.add_zero _).symm
  | case2 position remaining sums more rowChunk row =>
      rename_i ih
      rw [ih, ofSums_sumColumns, areaSum, areaSum, spanSum_chunk position remaining,
        UInt64.ofNat_add, UInt64.add_assoc]

theorem ofSample_average (stepX stepY y x : UInt32) :
    channel.ofSample (averageSample source stepX stepY y x) =
      (UInt64.ofNat (channel.areaSum source (y * stepY) stepY (x * stepX) stepX) /
        (stepX.toUInt64 * stepY.toUInt64)).toUInt32 := by
  have none : channel.ofSums Sums.zero = 0 := by cases channel <;> rfl
  rw [averageSample, ofSample_divide, ofSums_sumRows, none, UInt64.zero_add]

theorem toNat_ofSample_average {stepX stepY : UInt32}
    (light : 255 * (stepY.toNat * stepX.toNat) < 2 ^ 64) (y x : UInt32) :
    (channel.ofSample (averageSample source stepX stepY y x)).toNat =
        channel.areaSum source (y * stepY) stepY (x * stepX) stepX /
          (stepX.toNat * stepY.toNat) ∧
      (channel.ofSample (averageSample source stepX stepY y x)).toNat ≤ 255 := by
  have total := channel.areaSum_le source (y * stepY) stepY (x * stepX) stepX
  have quotient : channel.areaSum source (y * stepY) stepY (x * stepX) stepX /
      (stepX.toNat * stepY.toNat) ≤ 255 := by
    apply Nat.div_le_of_le_mul
    rwa [Nat.mul_comm _ 255, Nat.mul_comm stepX.toNat]
  have scale : (stepX.toUInt64 * stepY.toUInt64).toNat = stepX.toNat * stepY.toNat := by
    rw [UInt64.toNat_mul, UInt32.toNat_toUInt64, UInt32.toNat_toUInt64, Nat.mul_comm]
    exact Nat.mod_eq_of_lt (by omega)
  rw [ofSample_average, UInt64.toNat_toUInt32, UInt64.toNat_div, scale,
    UInt64.toNat_ofNat_of_lt' (Nat.lt_of_le_of_lt total light), Nat.mod_eq_of_lt (by omega)]
  exact ⟨rfl, quotient⟩

end Channel

end Raster
