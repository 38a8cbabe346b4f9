import Raster.Proofs.Resample.Exact

/-!
What area averages leave out. The areas of destination pixels follow one another from the first
source pixel on, with a length that is rounded down, so that in long rows and columns the last
source pixels may lie behind all of them.
-/

namespace Raster

namespace Resample

def pixelSpan (place : Nat) : Finset Nat := Finset.Ico (4096 * place) (4096 * (place + 1))

def Covers (side count : UInt32) (place : Nat) : Prop :=
  ∃ index < count, ¬Disjoint (areaSpan side count index) (pixelSpan place)

/-- How many places averaged into the pixel at an index show the source pixel at a place of the
side. Places beyond the side show its last pixel. -/
def share (side count index : UInt32) (place : Nat) : Nat :=
  ((areaSpan side count index).filter fun position =>
    min (position / 4096) (side.toNat - 1) = place).card

theorem sum_area {side : UInt32} (filled : 0 < side.toNat) (count index : UInt32)
    (value : Nat → Nat) :
    ∑ position ∈ areaSpan side count index, value (min (position / 4096) (side.toNat - 1)) =
      ∑ place ∈ Finset.range side.toNat, share side count index place * value place := by
  have within : ∀ position ∈ areaSpan side count index,
      min (position / 4096) (side.toNat - 1) ∈ Finset.range side.toNat := by
    intro position _
    rw [Finset.mem_range]
    omega
  rw [← Finset.sum_fiberwise_of_maps_to' within]
  refine Finset.sum_congr rfl fun place _ => ?_
  rw [Finset.sum_const, smul_eq_mul, share]

section Side

variable {side count : UInt32}

theorem exists_mem_areaSpan_iff (position : Nat) :
    (∃ index < count, position ∈ areaSpan side count index) ↔
      position < count.toNat * areaSide side count := by
  have step := areaSide_pos side count
  constructor
  · rintro ⟨index, below, member⟩
    have last := Nat.mul_le_mul_right (areaSide side count)
      (Nat.succ_le_of_lt (UInt32.lt_iff_toNat_lt.mp below))
    exact Nat.lt_of_lt_of_le (Finset.mem_Ico.mp member).2 last
  · intro before
    obtain ⟨below, index⟩ := Bitmap.counted ((Nat.div_lt_iff_lt_mul step).mpr before)
    refine ⟨_, below, Finset.mem_Ico.mpr ?_⟩
    rw [index]
    exact ⟨Nat.div_mul_le_self _ _, Nat.mul_comm _ _ ▸ Nat.lt_mul_div_succ position step⟩

theorem covers_iff (place : Nat) :
    Covers side count place ↔ 4096 * place < count.toNat * areaSide side count := by
  constructor
  · rintro ⟨index, below, meets⟩
    obtain ⟨position, member, shown⟩ := Finset.not_disjoint_iff.mp meets
    have before := (exists_mem_areaSpan_iff position).mp ⟨index, below, member⟩
    exact Nat.lt_of_le_of_lt (Finset.mem_Ico.mp shown).1 before
  · intro before
    obtain ⟨index, below, member⟩ := (exists_mem_areaSpan_iff _).mpr before
    refine ⟨index, below, Finset.not_disjoint_iff.mpr ⟨_, member, Finset.mem_Ico.mpr ?_⟩⟩
    omega

theorem share_pos_iff {index : UInt32} {place : Nat} : 0 < share side count index place ↔
    ∃ position ∈ areaSpan side count index, min (position / 4096) (side.toNat - 1) = place := by
  rw [share, Finset.card_pos]
  exact Finset.filter_nonempty_iff

theorem covers_iff_share {place : Nat} (inside : place < side.toNat) :
    Covers side count place ↔ ∃ index < count, 0 < share side count index place := by
  simp only [share_pos_iff]
  constructor
  · intro covers
    obtain ⟨index, below, member⟩ := (exists_mem_areaSpan_iff _).mpr ((covers_iff _).mp covers)
    exact ⟨index, below, 4096 * place, member, by omega⟩
  · rintro ⟨index, below, position, member, shown⟩
    have before := (exists_mem_areaSpan_iff position).mp ⟨index, below, member⟩
    rw [covers_iff]
    omega

theorem covers_of_short (someCount : 0 < count) (short : count.toNat ≤ 4096) {place : Nat}
    (inside : place < side.toNat) : Covers side count place := by
  have positive : 0 < count.toNat := UInt32.lt_iff_toNat_lt.mp someCount
  have whole := Nat.lt_mul_div_succ (4096 * side.toNat) positive
  have step := Nat.mul_le_mul_left count.toNat
    (Nat.le_max_right 1 (4096 * side.toNat / count.toNat))
  rw [covers_iff, areaSide]
  rw [Nat.mul_add] at whole
  omega

end Side

end Resample

namespace Channel

open Resample

variable (channel : Channel) {source : Bitmap}

theorem covered_eq_shares (hasColumns : 0 < source.width.toNat) (hasRows : 0 < source.height.toNat)
    (width height y x : UInt32) :
    channel.covered source (areaSpan source.height height y) (areaSpan source.width width x) =
      ∑ j ∈ Finset.range source.height.toNat, ∑ i ∈ Finset.range source.width.toNat,
        share source.height height y j * share source.width width x i *
          (channel.ofPixel (source.pixelAt j i)).toNat := by
  have columns (j : Nat) := sum_area hasColumns width x
    fun i => (channel.ofPixel (source.pixelAt j i)).toNat
  have rows := sum_area hasRows height y fun j =>
    ∑ i ∈ Finset.range source.width.toNat,
      share source.width width x i * (channel.ofPixel (source.pixelAt j i)).toNat
  simp only [covered, columns, rows, Finset.mul_sum, Nat.mul_assoc]

theorem ofSample_eq_shares (hasColumns : 0 < source.width.toNat) (hasRows : 0 < source.height.toNat)
    (narrow : source.width.toNat < 2 ^ 20) (low : source.height.toNat < 2 ^ 20)
    {width height y x : UInt32} (below : y < height) (inside : x < width) :
    channel.ofSample (sample source width height .average y.toNat x.toNat) =
      (UInt64.ofNat (∑ j ∈ Finset.range source.height.toNat, ∑ i ∈ Finset.range source.width.toNat,
          share source.height height y j * share source.width width x i *
            (channel.ofPixel (source.pixelAt j i)).toNat) /
        UInt64.ofNat (areaSide source.width width * areaSide source.height height)).toUInt32 := by
  have scale : (averageStep source.width width).toUInt64 *
      (averageStep source.height height).toUInt64 =
        UInt64.ofNat (areaSide source.width width * areaSide source.height height) := by
    rw [← toNat_averageStep_of_short narrow, ← toNat_averageStep_of_short low, UInt64.ofNat_mul,
      UInt64.ofNat_uInt32ToNat, UInt64.ofNat_uInt32ToNat]
  rw [sample_average, UInt32.ofNat_toNat, UInt32.ofNat_toNat, channel.ofSample_average, scale,
    channel.areaSum_eq source hasColumns hasRows (area_fits low below) (area_fits narrow inside),
    ← areaSpan_eq low below, ← areaSpan_eq narrow inside,
    channel.covered_eq_shares hasColumns hasRows]

end Channel

/-- An area average takes each source pixel as often as it has a share on both axes. A row or column
of the source has a share somewhere exactly if it begins before the last area ends; for up to 4096
destination rows or columns all do. -/
theorem average_coverage {source : Bitmap} (formed : source.WellFormed)
    (filled : source.valid = true) (narrow : source.width.toNat < 2 ^ 20)
    (low : source.height.toNat < 2 ^ 20) {width height : UInt32} (someColumns : 0 < width)
    (someRows : 0 < height) :
    ((Resample.averageStep source.width width).toNat = Resample.areaSide source.width width ∧
      (Resample.averageStep source.height height).toNat =
        Resample.areaSide source.height height) ∧
    (∀ y x : UInt32, y < height → x < width → ∀ channel : Channel,
      channel.ofSample (Resample.sample source width height .average y.toNat x.toNat) =
        (UInt64.ofNat (∑ j ∈ Finset.range source.height.toNat,
            ∑ i ∈ Finset.range source.width.toNat,
              Resample.share source.height height y j * Resample.share source.width width x i *
                (channel.ofPixel (source.pixelAt j i)).toNat) /
          UInt64.ofNat (Resample.areaSide source.width width *
            Resample.areaSide source.height height)).toUInt32) ∧
    (∀ i < source.width.toNat,
      (Resample.Covers source.width width i ↔
        ∃ x < width, 0 < Resample.share source.width width x i) ∧
      (Resample.Covers source.width width i ↔
        4096 * i < width.toNat * Resample.areaSide source.width width)) ∧
    (∀ j < source.height.toNat,
      (Resample.Covers source.height height j ↔
        ∃ y < height, 0 < Resample.share source.height height y j) ∧
      (Resample.Covers source.height height j ↔
        4096 * j < height.toNat * Resample.areaSide source.height height)) ∧
    (width.toNat ≤ 4096 → ∀ i < source.width.toNat, Resample.Covers source.width width i) ∧
    (height.toNat ≤ 4096 → ∀ j < source.height.toNat, Resample.Covers source.height height j) := by
  obtain ⟨hasColumns, hasRows⟩ := formed.sides_pos filled
  refine ⟨⟨?_, ?_⟩, ?_, ?_, ?_, ?_, ?_⟩
  · exact Resample.toNat_averageStep_of_short narrow width
  · exact Resample.toNat_averageStep_of_short low height
  · intro y x below inside channel
    exact channel.ofSample_eq_shares hasColumns hasRows narrow low below inside
  · intro i inside
    exact ⟨Resample.covers_iff_share inside, Resample.covers_iff i⟩
  · intro j below
    exact ⟨Resample.covers_iff_share below, Resample.covers_iff j⟩
  · intro short i inside
    exact Resample.covers_of_short someColumns short inside
  · intro short j below
    exact Resample.covers_of_short someRows short below

theorem average_coverage_loose :
    (Resample.loose.WellFormed ∧ Resample.strategy 2 1 1 2 false = .average) ∧
    (Resample.Covers 2 1 1 ∧ ∃ x < (1 : UInt32), 0 < Resample.share 2 1 x 1) ∧
    (Resample.Covers 1 2 0 ∧ ∃ y < (2 : UInt32), 0 < Resample.share 1 2 y 0) := by
  have loose : Resample.loose.WellFormed := ⟨by decide, by decide⟩
  obtain ⟨-, -, columns, rows, fewColumns, fewRows⟩ := average_coverage loose (by decide)
    (by decide) (by decide) (show (0 : UInt32) < 1 by decide) (show (0 : UInt32) < 2 by decide)
  have column : Resample.Covers 2 1 1 := fewColumns (by decide) 1 (by decide)
  have row : Resample.Covers 1 2 0 := fewRows (by decide) 0 (by decide)
  refine ⟨⟨loose, by decide⟩, ⟨column, ?_⟩, row, ?_⟩
  · exact (columns 1 (by decide)).1.mp column
  · exact (rows 0 (by decide)).1.mp row

/-- Of 8195 columns averaged into 4097 the last is in no area. -/
theorem average_misses_column :
    Resample.strategy 8195 1 4097 1 false = .average ∧ ¬Resample.Covers 8195 4097 8194 ∧
      ¬∃ x < (4097 : UInt32), 0 < Resample.share 8195 4097 x 8194 := by
  have missed : ¬Resample.Covers 8195 4097 8194 := by
    rw [Resample.covers_iff]
    decide
  exact ⟨by decide, missed, mt (Resample.covers_iff_share (by decide)).mpr missed⟩

end Raster
