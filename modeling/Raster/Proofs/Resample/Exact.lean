import Mathlib.Algebra.BigOperators.Intervals
import Raster.Proofs.Compositing
import Raster.Proofs.Resample.Checked
import Raster.Proofs.Resample.Choice

/-!
Area averages as the average they stand for. The area of a destination pixel is cut into squares of
a 4096th of a source pixel, each as bright as the source pixel it lies in; the sample is their mean,
rounded down, and is found without overflow.
-/

namespace Raster

namespace Resample

theorem spanSum_eq (value : UInt32 → Nat) {position remaining : UInt32}
    (fits : position.toNat + remaining.toNat ≤ 2 ^ 32) :
    spanSum value position remaining =
      ∑ place ∈ Finset.Ico position.toNat (position.toNat + remaining.toNat),
        value (UInt32.ofNat (place / 4096)) := by
  rw [Finset.sum_Ico_eq_sum_range, Nat.add_sub_cancel_left, spanSum]
  refine Finset.sum_congr rfl fun offset within => ?_
  have bound := Finset.mem_range.mp within
  have small : (position.toNat + offset) / 4096 < 2 ^ 32 := by
    omega
  congr 1
  rw [← UInt32.toNat_inj, UInt32.toNat_shiftRight, UInt32.toNat_add, UInt32.toNat_ofNat',
    UInt32.toNat_ofNat_of_lt' small, Nat.add_mod_mod, Nat.mod_eq_of_lt (by omega),
    Nat.shiftRight_eq_div_pow]
  rfl

end Resample

namespace Channel

open Resample

variable (channel : Channel) (source : Bitmap)

/-- A channel of a source, summed over places of an area in 4096ths of a pixel. Past the last row
and column their pixels go on. -/
def covered (rows columns : Finset Nat) : Nat :=
  ∑ j ∈ rows, ∑ i ∈ columns,
    (channel.ofPixel (source.pixelAt (min (j / 4096) (source.height.toNat - 1))
      (min (i / 4096) (source.width.toNat - 1)))).toNat

theorem areaSum_eq (hasColumns : 0 < source.width.toNat) (hasRows : 0 < source.height.toNat)
    {startY stepY startX stepX : UInt32} (fitsY : startY.toNat + stepY.toNat ≤ 2 ^ 32)
    (fitsX : startX.toNat + stepX.toNat ≤ 2 ^ 32) :
    channel.areaSum source startY stepY startX stepX =
      channel.covered source (Finset.Ico startY.toNat (startY.toNat + stepY.toNat))
        (Finset.Ico startX.toNat (startX.toNat + stepX.toNat)) := by
  rw [areaSum, spanSum_eq _ fitsY, covered]
  refine Finset.sum_congr rfl fun j down => ?_
  rw [spanSum_eq _ fitsX]
  refine Finset.sum_congr rfl fun i across => ?_
  have rowBound := (Finset.mem_Ico.mp down).2
  have columnBound := (Finset.mem_Ico.mp across).2
  have counts {place : Nat} (small : place < 2 ^ 32) :
      (UInt32.ofNat (place / 4096)).toNat = place / 4096 :=
    UInt32.toNat_ofNat_of_lt' (Nat.lt_of_le_of_lt (Nat.div_le_self _ _) small)
  rw [nearest, toNat_clamped hasRows, toNat_clamped hasColumns, counts (by omega),
    counts (by omega)]

theorem covered_of_same {source : Bitmap} {rows columns : Finset Nat} {colour : Pixel}
    (same : ∀ j ∈ rows, ∀ i ∈ columns, source.pixelAt (min (j / 4096) (source.height.toNat - 1))
      (min (i / 4096) (source.width.toNat - 1)) = colour) :
    channel.covered source rows columns =
      rows.card * (columns.card * (channel.ofPixel colour).toNat) := by
  refine Finset.sum_const_nat fun j row => Finset.sum_const_nat fun i column => ?_
  rw [same j row i column]

end Channel

namespace Resample

/-- Places averaged into the pixel at an index, from the first to where the next pixel's begin. -/
def areaSpan (side count index : UInt32) : Finset Nat :=
  Finset.Ico (index.toNat * areaSide side count) ((index.toNat + 1) * areaSide side count)

theorem areaSpan_card (side count index : UInt32) :
    (areaSpan side count index).card = areaSide side count := by
  rw [areaSpan, Nat.card_Ico, Nat.succ_mul, Nat.add_sub_cancel_left]

section Short

variable {side count index : UInt32} (short : side.toNat < 2 ^ 20) (below : index < count)

include short below

theorem area_start :
    (index * averageStep side count).toNat = index.toNat * areaSide side count := by
  have ends := end_of_area_lt short (UInt32.lt_iff_toNat_lt.mp below)
  rw [toNat_averageStep_of_short short, Nat.succ_mul] at ends
  rw [UInt32.toNat_mul, toNat_averageStep_of_short short, Nat.mod_eq_of_lt (by omega)]

theorem area_fits :
    (index * averageStep side count).toNat + (averageStep side count).toNat ≤ 2 ^ 32 := by
  have ends := end_of_area_lt short (UInt32.lt_iff_toNat_lt.mp below)
  rw [toNat_averageStep_of_short short, Nat.succ_mul] at ends
  rw [area_start short below, toNat_averageStep_of_short short]
  exact Nat.le_of_lt ends

theorem areaSpan_eq : areaSpan side count index =
    Finset.Ico (index * averageStep side count).toNat
      ((index * averageStep side count).toNat + (averageStep side count).toNat) := by
  rw [area_start short below, toNat_averageStep_of_short short, areaSpan, Nat.succ_mul]

end Short

section Exact

variable {source : Bitmap} (hasColumns : 0 < source.width.toNat) (hasRows : 0 < source.height.toNat)
  (narrow : source.width.toNat < 2 ^ 20) (low : source.height.toNat < 2 ^ 20)
  {width height : UInt32}
  (light : 255 * ((averageStep source.height height).toNat *
    (averageStep source.width width).toNat) < 2 ^ 64)

include hasColumns hasRows narrow low light

theorem toNat_sample_average (channel : Channel) {y x : UInt32} (below : y < height)
    (inside : x < width) :
    (channel.ofSample (sample source width height .average y.toNat x.toNat)).toNat =
      channel.covered source (areaSpan source.height height y) (areaSpan source.width width x) /
        (areaSide source.width width * areaSide source.height height) := by
  rw [sample_average, UInt32.ofNat_toNat, UInt32.ofNat_toNat,
    (channel.toNat_ofSample_average source light y x).1,
    channel.areaSum_eq source hasColumns hasRows (area_fits low below) (area_fits narrow inside),
    areaSpan_eq low below, areaSpan_eq narrow inside, ← toNat_averageStep_of_short narrow,
    ← toNat_averageStep_of_short low]

theorem sample_average_of_same {y x : UInt32} (below : y < height) (inside : x < width)
    {colour : Pixel} (same : ∀ j ∈ areaSpan source.height height y,
      ∀ i ∈ areaSpan source.width width x,
        source.pixelAt (min (j / 4096) (source.height.toNat - 1))
          (min (i / 4096) (source.width.toNat - 1)) = colour) :
    sample source width height .average y.toNat x.toNat = colour.toSample := by
  apply Sample.eq_of_channels
  intro channel
  rw [← UInt32.toNat_inj,
    toNat_sample_average hasColumns hasRows narrow low light channel below inside,
    channel.covered_of_same same, areaSpan_card, areaSpan_card, ← Nat.mul_assoc,
    Nat.mul_comm (areaSide source.height height), channel.ofSample_toSample, UInt8.toNat_toUInt32]
  exact Nat.mul_div_cancel_left _ (Nat.mul_pos (areaSide_pos _ _) (areaSide_pos _ _))

end Exact

end Resample

/-- An area average is the mean of all it covers, place by place. Each visible pixel becomes the old
one under the tinted mean of its area, which bounded loops find without overflow; a source of one
colour keeps it under a tint that keeps every channel. -/
theorem average_exact {destination source : Bitmap} (formed : destination.WellFormed)
    (sourceFormed : source.WellFormed) (filled : source.valid = true)
    (pixels : source.width.toNat * source.height.toNat ≤ 2 ^ 32)
    (narrow : source.width.toNat < 2 ^ 20) (low : source.height.toNat < 2 ^ 20) (tint : Tint)
    (forceAverage : Bool) (averaged : Resample.strategy source.width source.height destination.width
      destination.height forceAverage = .average) :
    ((Resample.averageStep source.width destination.width).toNat =
        Resample.areaSide source.width destination.width ∧
      (Resample.averageStep source.height destination.height).toNat =
        Resample.areaSide source.height destination.height) ∧
    (∀ y x : UInt32, y < destination.height → x < destination.width →
      Resample.averageSample? source (Resample.averageStep source.width destination.width)
          (Resample.averageStep source.height destination.height) y x =
        some (Resample.sample source destination.width destination.height .average y.toNat
          x.toNat) ∧
      (∀ channel : Channel,
        (channel.ofSample (Resample.sample source destination.width destination.height .average
            y.toNat x.toNat)).toNat =
          channel.covered source (Resample.areaSpan source.height destination.height y)
              (Resample.areaSpan source.width destination.width x) /
            (Resample.areaSide source.width destination.width *
              Resample.areaSide source.height destination.height)) ∧
      ∃ old, destination.pixel? y x = some old ∧
        (resample destination source tint forceAverage).pixel? y x =
          some (tint.factors.compose (Resample.sample source destination.width destination.height
            .average y.toNat x.toNat) old)) ∧
    (tint.factors = ⟨256, 256, 256, 256⟩ → ∀ colour,
      (∀ y x : UInt32, y < source.height → x < source.width → source.pixel? y x = some colour) →
      ∀ y x : UInt32, y < destination.height → x < destination.width →
        (resample destination source tint forceAverage).pixel? y x = some colour) := by
  obtain ⟨hasColumns, hasRows⟩ := sourceFormed.sides_pos filled
  have light := Resample.average_weight_lt hasColumns hasRows pixels destination.width
    destination.height
  refine ⟨⟨?_, ?_⟩, ?_, ?_⟩
  · exact Resample.toNat_averageStep_of_short narrow _
  · exact Resample.toNat_averageStep_of_short low _
  · intro y x below inside
    refine ⟨?_, ?_, pixel?_resample_of_strategy formed filled tint averaged below inside⟩
    · exact Resample.averageSample?_of_short sourceFormed filled pixels narrow low below inside
    · intro channel
      exact Resample.toNat_sample_average hasColumns hasRows narrow low light channel below inside
  · intro full colour uniform y x below inside
    obtain ⟨old, -, became⟩ := pixel?_resample_of_strategy formed filled tint averaged below inside
    rw [became, Resample.sample_average_of_same hasColumns hasRows narrow low light below inside
      fun j _ i _ => Bitmap.pixelAt_of_uniform uniform (by omega) (by omega),
      compose_toSample_of_full full]

namespace Resample

def plain : Bitmap := ⟨3, 1, 4, #[⟨0x80112233⟩, ⟨0x80112233⟩, ⟨0x80112233⟩, ⟨7⟩]⟩

theorem plain_uniform : ∀ y x : UInt32, y < plain.height → x < plain.width →
    plain.pixel? y x = some ⟨0x80112233⟩ := by
  rw [Bitmap.forall_visible_iff]
  decide

end Resample

theorem average_exact_samples :
    (Resample.upright.WellFormed ∧ Resample.loose.WellFormed ∧
      Resample.strategy 2 1 1 2 false = .average ∧
      (Channel.ofSample .red (Resample.sample Resample.loose Resample.upright.width
          Resample.upright.height .average (1 : UInt32).toNat (0 : UInt32).toNat)).toNat =
        Channel.covered .red Resample.loose
            (Resample.areaSpan Resample.loose.height Resample.upright.height 1)
            (Resample.areaSpan Resample.loose.width Resample.upright.width 0) /
          (Resample.areaSide Resample.loose.width Resample.upright.width *
            Resample.areaSide Resample.loose.height Resample.upright.height)) ∧
    (Resample.plain.WellFormed ∧ Resample.strategy 3 1 2 1 false = .average ∧
      (resample (Bitmap.blank 2 1) Resample.plain Tint.white false).pixel? 0 1 =
        some ⟨0x80112233⟩) := by
  have upright : Resample.upright.WellFormed := ⟨by decide, by decide⟩
  have loose : Resample.loose.WellFormed := ⟨by decide, by decide⟩
  have plain : Resample.plain.WellFormed := ⟨by decide, by decide⟩
  obtain ⟨-, means, -⟩ := average_exact upright loose (by decide) (by decide) (by decide)
    (by decide) Tint.white false (by decide)
  obtain ⟨-, mean, -⟩ := means 1 0 (by decide) (by decide)
  obtain ⟨-, -, kept⟩ := average_exact (Bitmap.blank_wellFormed 2 1) plain (by decide)
    (by decide) (by decide) (by decide) Tint.white false (by decide)
  refine ⟨⟨upright, loose, by decide, mean .red⟩, plain, by decide, ?_⟩
  exact kept Tint.factors_white _ Resample.plain_uniform 0 1 (by decide) (by decide)

end Raster
