import Raster.Proofs.Resample.Tent

/-!
Where filtered images fade out. A destination pixel has its middle within one source pixel of the
source, or it takes nothing from it. Steps are rounded up, and in long rows and columns the last
middles come to lie beyond that.
-/

namespace Raster

namespace Resample

/-- The middles of a whole row or column of destination pixels are before the end of the source. -/
def Stays (side count : UInt32) : Prop :=
  ∀ index : UInt32, index < count → middle side count index < 4096 * side.toNat

def tapPlace (position : Int) (further : Bool) : Int :=
  if further then position + 4096 else position

def tapShare (position : Int) (further : Bool) : Nat :=
  if further then (position % 4096).toNat else 4096 - (position % 4096).toNat

/-- One of the four taps at a position is in the source and has weight. -/
def Touches (source : Bitmap) (y x : Int) : Prop :=
  ∃ below right : Bool,
    (0 ≤ tapPlace x right ∧ tapPlace x right < source.width.toNat * 4096 ∧
      0 ≤ tapPlace y below ∧ tapPlace y below < source.height.toNat * 4096) ∧
    0 < tapShare x right * tapShare y below

theorem exists_tapShare_iff {side : Nat} (filled : 0 < side) (position : Int) :
    (∃ further, (0 ≤ tapPlace position further ∧ tapPlace position further < side * 4096) ∧
      0 < tapShare position further) ↔ -4096 < position ∧ position < 4096 * side := by
  simp only [Bool.exists_bool, tapPlace, tapShare, Bool.false_eq_true, if_false, if_true]
  omega

theorem touches_iff {source : Bitmap} (hasColumns : 0 < source.width.toNat)
    (hasRows : 0 < source.height.toNat) (y x : Int) : Touches source y x ↔
      (-4096 < y ∧ y < 4096 * source.height.toNat) ∧
        (-4096 < x ∧ x < 4096 * source.width.toNat) := by
  rw [← exists_tapShare_iff hasRows, ← exists_tapShare_iff hasColumns]
  constructor
  · rintro ⟨below, right, ⟨left, wide, above, high⟩, weight⟩
    exact ⟨⟨below, ⟨above, high⟩, Nat.pos_of_mul_pos_left weight⟩,
      ⟨right, ⟨left, wide⟩, Nat.pos_of_mul_pos_right weight⟩⟩
  · rintro ⟨⟨below, ⟨above, high⟩, heavy⟩, right, ⟨left, wide⟩, weight⟩
    exact ⟨below, right, ⟨left, wide, above, high⟩, Nat.mul_pos weight heavy⟩

end Resample

namespace Channel

open Resample

variable (channel : Channel) (source : Bitmap)

theorem toNat_ofSample_taps (stepX stepY : UInt32) (y x : Nat) :
    (channel.ofSample (bilinearSample source stepX stepY y x)).toNat =
      (∑ below : Bool, ∑ right : Bool,
        tapShare (backProject stepX x) right * tapShare (backProject stepY y) below *
          (channel.ofPixel (tap source (tapPlace (backProject stepY y) below)
            (tapPlace (backProject stepX x) right))).toNat) / 2 ^ 24 := by
  rw [channel.toNat_ofSample_bilinear, filtered_eq_taps]
  simp only [Fintype.sum_bool, tapShare, tapPlace, Bool.false_eq_true, if_false, if_true]
  congr 1
  omega

end Channel

namespace Resample

theorem bilinearSample_of_not_touches {source : Bitmap} {stepX stepY : UInt32} {y x : Nat}
    (apart : ¬Touches source (backProject stepY y) (backProject stepX x)) :
    bilinearSample source stepX stepY y x = ⟨0, 0, 0, 0⟩ := by
  apply Sample.eq_of_channels
  intro channel
  have zero : channel.ofSample ⟨0, 0, 0, 0⟩ = 0 := by cases channel <;> rfl
  rw [zero, ← UInt32.toNat_inj, channel.toNat_ofSample_taps]
  refine Nat.div_eq_of_lt (Nat.lt_of_le_of_lt (Nat.le_of_eq ?_) (Nat.two_pow_pos 24))
  refine Finset.sum_eq_zero fun below _ => Finset.sum_eq_zero fun right _ => ?_
  rw [tap]
  split
  · rename_i inside
    have light := Nat.not_lt.mp fun weight => apart ⟨below, right, inside, weight⟩
    rw [Nat.le_zero.mp light, Nat.zero_mul]
  · rw [channel.ofPixel_transparent]
    rfl

section Side

variable {side count : UInt32}

theorem middle_ge (side count index : UInt32) : -2048 ≤ middle side count index := by
  rw [middle, ← Int.natCast_mul]
  omega

theorem middle_lt_iff (index : UInt32) : middle side count index < 4096 * side.toNat ↔
    index.toNat * filterStep side count + filterStep side count / 2 <
      4096 * side.toNat + 2048 := by
  rw [middle, ← Int.natCast_mul]
  omega

variable (someCount : 0 < count)

include someCount

theorem stays_iff : Stays side count ↔ count.toNat * filterStep side count <
    4096 * side.toNat + 2048 + (filterStep side count + 1) / 2 := by
  have positive : 0 < count.toNat := UInt32.lt_iff_toNat_lt.mp someCount
  have whole := Nat.succ_mul (count.toNat - 1) (filterStep side count)
  rw [Nat.succ_eq_add_one, Nat.sub_add_cancel positive] at whole
  simp only [Stays, middle_lt_iff]
  constructor
  · intro stays
    obtain ⟨below, last⟩ := Bitmap.counted (Nat.sub_lt positive Nat.one_pos)
    have bound := stays _ below
    rw [last] at bound
    omega
  · intro bound index below
    have before : index.toNat ≤ count.toNat - 1 :=
      Nat.le_sub_one_of_lt (UInt32.lt_iff_toNat_lt.mp below)
    have place := Nat.mul_le_mul_right (filterStep side count) before
    omega

theorem filterStep_pos (hasPixels : 0 < side) : 0 < filterStep side count := by
  have positive : 0 < count.toNat := UInt32.lt_iff_toNat_lt.mp someCount
  have length : 0 < side.toNat := UInt32.lt_iff_toNat_lt.mp hasPixels
  rw [filterStep, Nat.ceilDiv_eq_add_pred_div]
  exact Nat.div_pos (by omega) positive

theorem filterStep_whole_lt :
    count.toNat * filterStep side count < 4096 * side.toNat + count.toNat := by
  have positive : 0 < count.toNat := UInt32.lt_iff_toNat_lt.mp someCount
  have quotient := Nat.mul_div_le (4096 * side.toNat + count.toNat - 1) count.toNat
  rw [filterStep, Nat.ceilDiv_eq_add_pred_div]
  omega

theorem stays_of_short (hasPixels : 0 < side) (short : count.toNat ≤ 2049) : Stays side count := by
  have step := filterStep_pos someCount hasPixels
  have whole : count.toNat * filterStep side count < 4096 * side.toNat + count.toNat :=
    filterStep_whole_lt someCount
  rw [stays_iff someCount]
  omega

end Side

end Resample

/-- The middle of a filtered pixel is always less than a source pixel before the source. If it is
before the end of the source too, on both axes, one of its taps is in the source and has weight;
otherwise its sample is transparent. All middles of a row or column are before that end exactly if
rounding adds less to its steps than half a source pixel and half a step; so it does for up to 2049
destination pixels. -/
theorem bilinear_confined {source : Bitmap} {width height : UInt32} {forceAverage : Bool}
    (filtered : Resample.strategy source.width source.height width height forceAverage =
      .bilinear) :
    (∀ y x : UInt32,
      (Resample.backProject (Resample.ratioCeil source.height height) y.toNat =
          Resample.middle source.height height y ∧
        Resample.backProject (Resample.ratioCeil source.width width) x.toNat =
          Resample.middle source.width width x) ∧
      (-4096 < Resample.middle source.height height y ∧
        -4096 < Resample.middle source.width width x) ∧
      (Resample.Touches source (Resample.middle source.height height y)
          (Resample.middle source.width width x) ↔
        Resample.middle source.height height y < 4096 * source.height.toNat ∧
          Resample.middle source.width width x < 4096 * source.width.toNat) ∧
      (¬Resample.Touches source (Resample.middle source.height height y)
          (Resample.middle source.width width x) →
        Resample.sample source width height .bilinear y.toNat x.toNat = ⟨0, 0, 0, 0⟩)) ∧
    (Resample.Stays source.width width ↔
      width.toNat * Resample.filterStep source.width width < 4096 * source.width.toNat + 2048 +
        (Resample.filterStep source.width width + 1) / 2) ∧
    (Resample.Stays source.height height ↔
      height.toNat * Resample.filterStep source.height height < 4096 * source.height.toNat + 2048 +
        (Resample.filterStep source.height height + 1) / 2) ∧
    (width.toNat ≤ 2049 → Resample.Stays source.width width) ∧
    (height.toNat ≤ 2049 → Resample.Stays source.height height) := by
  obtain ⟨⟨hasColumns, hasRows, someColumns, someRows⟩, wide, high⟩ :=
    Resample.sides_of_bilinear filtered
  refine ⟨?_, Resample.stays_iff someColumns, Resample.stays_iff someRows, ?_, ?_⟩
  · intro y x
    have afterY := Resample.middle_ge source.height height y
    have afterX := Resample.middle_ge source.width width x
    have rows := Resample.backProject_eq_middle someRows high y
    have columns := Resample.backProject_eq_middle someColumns wide x
    refine ⟨⟨rows, columns⟩, ⟨by omega, by omega⟩, ?_, ?_⟩
    · rw [Resample.touches_iff (UInt32.lt_iff_toNat_lt.mp hasColumns)
        (UInt32.lt_iff_toNat_lt.mp hasRows)]
      omega
    · intro apart
      rw [← rows, ← columns] at apart
      exact Resample.bilinearSample_of_not_touches apart
  · exact Resample.stays_of_short someColumns hasColumns
  · exact Resample.stays_of_short someRows hasRows

namespace Resample

def bright : Bitmap := ⟨2, 1, 2, #[⟨0xffffffff⟩, ⟨0xffffffff⟩]⟩

end Resample

theorem bilinear_confined_bright :
    (Resample.strategy 2 1 2729 1 false = .bilinear ∧
      Resample.Touches Resample.bright (Resample.middle 1 1 0) (Resample.middle 2 2729 2559)) ∧
    (Resample.strategy 2 1 2049 1 false = .bilinear ∧ Resample.Stays 2 2049) := by
  have long : Resample.strategy Resample.bright.width Resample.bright.height 2729 1 false =
      .bilinear := by decide
  have short : Resample.strategy Resample.bright.width Resample.bright.height 2049 1 false =
      .bilinear := by decide
  obtain ⟨pixels, -⟩ := bilinear_confined long
  obtain ⟨-, -, touches, -⟩ := pixels 0 2559
  obtain ⟨-, -, -, stays, -⟩ := bilinear_confined short
  exact ⟨⟨long, touches.mpr (by decide)⟩, short, stays (by decide)⟩

/-- Two bright pixels, filtered into a row of 2729, leave its last pixel dark. -/
theorem bilinear_not_confined :
    Resample.strategy 2 1 2729 1 false = .bilinear ∧
    ¬Resample.middle 2 2729 2728 < 4096 * 2 ∧
    ¬Resample.Touches Resample.bright (Resample.middle 1 1 0) (Resample.middle 2 2729 2728) ∧
    Resample.sample Resample.bright 2729 1 .bilinear 0 2728 = ⟨0, 0, 0, 0⟩ := by
  have beyond : ¬Resample.middle 2 2729 2728 < 4096 * 2 := by decide
  refine ⟨by decide, beyond, ?_, by decide⟩
  rw [Resample.touches_iff (by decide) (by decide)]
  rintro ⟨-, -, before⟩
  exact beyond before

end Raster
