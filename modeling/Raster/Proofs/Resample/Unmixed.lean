import Raster.Proofs.Resample.Steps
import Raster.Proofs.Resample.Transpose

/-!
Axes that are not scaled. Where source and destination have the same height, steps down the rows are
exactly one source pixel and start at its edge, so that a destination row takes from the source row
beside it and from no other. Columns follow by transposition.
-/

namespace Raster

namespace Bitmap

structure SameRow (y : UInt32) (left right : Bitmap) : Prop where
  width : left.width = right.width
  height : left.height = right.height
  visible : ∀ x : UInt32, x < left.width → left.pixel? y x = right.pixel? y x

structure SameColumn (x : UInt32) (left right : Bitmap) : Prop where
  width : left.width = right.width
  height : left.height = right.height
  visible : ∀ y : UInt32, y < left.height → left.pixel? y x = right.pixel? y x

theorem forall_inside_iff {side : UInt32} {holds : UInt32 → Prop} :
    (∀ index : UInt32, index < side → holds index) ↔
      ∀ index : Nat, index < side.toNat → holds (UInt32.ofNat index) := by
  constructor
  · intro all index inside
    exact all _ (counted inside).1
  · intro all index inside
    have place := all index.toNat (UInt32.lt_iff_toNat_lt.mp inside)
    rwa [UInt32.ofNat_toNat] at place

theorem SameRow.pixelAt {y : UInt32} {left right : Bitmap} (same : left.SameRow y right) {x : Nat}
    (inside : x < left.width.toNat) : left.pixelAt y.toNat x = right.pixelAt y.toNat x := by
  obtain ⟨within, column⟩ := counted inside
  rw [← column, pixelAt_toNat, pixelAt_toNat, same.visible _ within]

theorem SameColumn.transpose {x : UInt32} {left right : Bitmap} (same : left.SameColumn x right)
    (leftFormed : left.WellFormed) (rightFormed : right.WellFormed) (inside : x < left.width) :
    left.transpose.SameRow x right.transpose := by
  refine ⟨same.height, same.width, ?_⟩
  intro y below
  have within : x < right.width := same.width ▸ inside
  have available : y < right.height := same.height ▸ below
  have shown := (transpose_transposes leftFormed).visible x y inside below
  have other := (transpose_transposes rightFormed).visible x y within available
  rw [shown, other, same.visible y below]

end Bitmap

namespace Resample

theorem spanSum_unscaled {y : UInt32} (short : y.toNat < 2 ^ 20) (value : UInt32 → Nat) :
    spanSum value (y * 4096) 4096 = 4096 * value y := by
  have start : (y * 4096).toNat = y.toNat * 4096 := by
    rw [UInt32.toNat_mul]
    exact Nat.mod_eq_of_lt (Nat.mul_lt_mul_of_pos_right short (by decide))
  have whole : chunk (y * 4096) 4096 = 4096 := by
    rw [← UInt32.toNat_inj, toNat_chunk, start, Nat.mul_mod_left]
    rfl
  have row : (y * 4096) >>> 12 = y := by
    rw [← UInt32.toNat_inj, UInt32.toNat_shiftRight, start, Nat.shiftRight_eq_div_pow]
    exact Nat.mul_div_cancel _ (by decide)
  rw [spanSum_chunk, whole, row, UInt32.sub_self, spanSum_zero]
  rfl

theorem backProject_unscaled (y : Nat) : backProject 4096 y = y * 4096 := by
  change ((y * 4096 + 2048 : Nat) : Int) - 2048 = y * 4096
  omega

theorem weighTaps_near (channel : Pixel → UInt8) (nearLeft nearRight farLeft farRight : Pixel)
    (otherLeft otherRight : Pixel) (fractionX : Nat) :
    weighTaps channel nearLeft nearRight farLeft farRight 0 fractionX =
      weighTaps channel nearLeft nearRight otherLeft otherRight 0 fractionX := by
  simp only [weighTaps, Nat.mul_zero, Nat.zero_mul]

section Row

variable {y : UInt32} {left right : Bitmap} (same : left.SameRow y right)

include same

theorem tap_sameRow (x : Int) : tap left (y.toNat * 4096) x = tap right (y.toNat * 4096) x := by
  have row : ((y.toNat : Int) * 4096 / 4096).toNat = y.toNat := by omega
  rw [tap, tap, ← same.width, ← same.height, row]
  split
  · exact same.pixelAt (by omega)
  · rfl

theorem bilinearSample_sameRow (stepX : UInt32) (x : Nat) :
    bilinearSample left stepX 4096 y.toNat x = bilinearSample right stepX 4096 y.toNat x := by
  apply Sample.eq_of_channels
  intro channel
  have fraction : ((y.toNat : Int) * 4096 % 4096).toNat = 0 := by omega
  rw [channel.ofSample_bilinear, channel.ofSample_bilinear, backProject_unscaled, fraction,
    tap_sameRow same, tap_sameRow same]
  exact weighTaps_near ..

variable (below : y.toNat < left.height.toNat)

include below

theorem replicateSample_sameRow {width height : UInt32} (unscaled : left.height = height) {x : Nat}
    (hasColumns : 0 < left.width.toNat) (inside : x < width.toNat) :
    replicateSample left width height y.toNat x = replicateSample right width height y.toNat x := by
  have row : y.toNat * height.toNat / height.toNat = y.toNat :=
    Nat.mul_div_cancel _ (unscaled ▸ Nat.zero_lt_of_lt below)
  have column : x * left.width.toNat / width.toNat < left.width.toNat :=
    scaled_lt hasColumns inside
  rw [replicateSample, replicateSample, ← same.width, ← same.height, unscaled, row,
    same.pixelAt column]

theorem nearest_sameRow (channel : Channel) (hasColumns : 0 < left.width.toNat) (column : UInt32) :
    channel.nearest left y column = channel.nearest right y column := by
  have row : (min y (left.height - 1)).toNat = y.toNat := by
    rw [toNat_clamped (Nat.zero_lt_of_lt below)]
    omega
  rw [Channel.nearest, Channel.nearest, ← same.width, ← same.height, row,
    same.pixelAt (clamped_lt hasColumns column)]

theorem averageSample_sameRow (short : y.toNat < 2 ^ 20) (hasColumns : 0 < left.width.toNat)
    (stepX x : UInt32) :
    averageSample left stepX 4096 y x = averageSample right stepX 4096 y x := by
  apply Sample.eq_of_channels
  intro channel
  have nearest : channel.nearest left y = channel.nearest right y :=
    funext (nearest_sameRow same below channel hasColumns)
  rw [channel.ofSample_average, channel.ofSample_average, Channel.areaSum, Channel.areaSum,
    spanSum_unscaled short, spanSum_unscaled short, nearest]

theorem sample_sameRow (short : y.toNat < 2 ^ 20) (hasColumns : 0 < left.width.toNat)
    {width height : UInt32} (unscaled : left.height = height) (strategy : Strategy) {x : Nat}
    (inside : x < width.toNat) :
    sample left width height strategy y.toNat x = sample right width height strategy y.toNat x := by
  have hasRows : 0 < height.toNat := unscaled ▸ Nat.zero_lt_of_lt below
  cases strategy with
  | average =>
      rw [sample_average, sample_average, ← same.width, ← same.height, unscaled,
        averageStep_self hasRows, UInt32.ofNat_toNat]
      exact averageSample_sameRow same below short hasColumns ..
  | replicate => exact replicateSample_sameRow same below unscaled hasColumns inside
  | bilinear =>
      rw [sample, sample, ← same.width, ← same.height, unscaled, ratioCeil_self hasRows]
      exact bilinearSample_sameRow same ..

end Row

end Resample

section Resampled

variable {destination left right : Bitmap} (formed : destination.WellFormed)
  (leftFormed : left.WellFormed) (rightFormed : right.WellFormed) (tint : Tint)
  (forceAverage : Bool) {y x : UInt32} (below : y < destination.height)
  (inside : x < destination.width)

include formed leftFormed rightFormed below inside

theorem resample_sameRow (unscaled : left.height = destination.height)
    (short : left.height.toNat ≤ 2 ^ 20) (same : left.SameRow y right) :
    (resample destination left tint forceAverage).pixel? y x =
      (resample destination right tint forceAverage).pixel? y x := by
  have validity := leftFormed.valid_congr rightFormed same.width same.height
  by_cases filled : left.valid = true
  · obtain ⟨hasColumns, -⟩ := leftFormed.sides_pos filled
    have available : y.toNat < left.height.toNat :=
      UInt32.lt_iff_toNat_lt.mp (unscaled ▸ below)
    rw [pixel?_resample formed tint forceAverage filled below inside,
      pixel?_resample formed tint forceAverage (validity.mp filled) below inside, ← same.width,
      ← same.height, Resample.sample_sameRow same available (by omega) hasColumns unscaled _
        (UInt32.lt_iff_toNat_lt.mp inside)]
  · rw [resample_of_not_valid _ _ filled, resample_of_not_valid _ _ (mt validity.mpr filled)]

theorem resample_sameColumn (unscaled : left.width = destination.width)
    (short : left.width.toNat ≤ 2 ^ 20) (same : left.SameColumn x right) :
    (resample destination left tint forceAverage).pixel? y x =
      (resample destination right tint forceAverage).pixel? y x := by
  have destinations := Bitmap.transpose_transposes formed
  have turned := resample_transposes destination.transpose_wellFormed formed
    left.transpose_wellFormed leftFormed (Bitmap.transpose_transposes leftFormed) destinations tint
    forceAverage
  have otherTurned := resample_transposes destination.transpose_wellFormed formed
    right.transpose_wellFormed rightFormed (Bitmap.transpose_transposes rightFormed) destinations
    tint forceAverage
  have shape := Bitmap.Repaints.resample destination.transpose left.transpose tint forceAverage
  have otherShape :=
    Bitmap.Repaints.resample destination.transpose right.transpose tint forceAverage
  have row := resample_sameRow destination.transpose_wellFormed left.transpose_wellFormed
    right.transpose_wellFormed tint forceAverage inside below unscaled short
    (same.transpose leftFormed rightFormed (unscaled ▸ inside))
  rw [turned.visible x y (shape.height ▸ inside) (shape.width ▸ below),
    otherTurned.visible x y (otherShape.height ▸ inside) (otherShape.width ▸ below)] at row
  exact row

end Resampled

/-- An axis with as many source as destination pixels is not mixed, whichever strategy runs and
however the other axis is scaled: a destination row depends on the source through the row beside it
alone, and a destination column through the column beside it. -/
theorem resample_unmixed {destination left right : Bitmap} (formed : destination.WellFormed)
    (leftFormed : left.WellFormed) (rightFormed : right.WellFormed) (tint : Tint)
    (forceAverage : Bool) :
    (left.height = destination.height → left.height.toNat ≤ 2 ^ 20 →
      ∀ y, y < destination.height → left.SameRow y right → ∀ x, x < destination.width →
        (resample destination left tint forceAverage).pixel? y x =
          (resample destination right tint forceAverage).pixel? y x) ∧
    (left.width = destination.width → left.width.toNat ≤ 2 ^ 20 →
      ∀ x, x < destination.width → left.SameColumn x right → ∀ y, y < destination.height →
        (resample destination left tint forceAverage).pixel? y x =
          (resample destination right tint forceAverage).pixel? y x) := by
  constructor
  · intro unscaled short y below same x inside
    exact resample_sameRow formed leftFormed rightFormed tint forceAverage below inside unscaled
      short same
  · intro unscaled short x inside same y below
    exact resample_sameColumn formed leftFormed rightFormed tint forceAverage below inside unscaled
      short same

namespace Resample

def patch : Bitmap := ⟨2, 2, 2, #[⟨0x80112233⟩, ⟨0x81223344⟩, ⟨0x82334455⟩, ⟨0x83445566⟩]⟩

def chipped : Bitmap :=
  ⟨2, 2, 3, #[⟨0x80112233⟩, ⟨0x81223344⟩, ⟨1⟩, ⟨0xffffffff⟩, ⟨0x83445566⟩, ⟨2⟩]⟩

theorem patch_sameRow : patch.SameRow 0 chipped := by
  refine ⟨rfl, rfl, ?_⟩
  rw [Bitmap.forall_inside_iff]
  decide

theorem patch_sameColumn : patch.SameColumn 1 chipped := by
  refine ⟨rfl, rfl, ?_⟩
  rw [Bitmap.forall_inside_iff]
  decide

end Resample

theorem resample_unmixed_chipped :
    (Resample.patch.WellFormed ∧ Resample.chipped.WellFormed) ∧
    (Resample.strategy 2 2 3 2 false = .bilinear ∧ Resample.patch.SameRow 0 Resample.chipped ∧
      (resample (Bitmap.blank 3 2) Resample.patch Tint.white false).pixel? 0 1 =
        (resample (Bitmap.blank 3 2) Resample.chipped Tint.white false).pixel? 0 1 ∧
      (resample (Bitmap.blank 3 2) Resample.patch Tint.white false).pixel? 0 1 =
        some ⟨0x80192a3b⟩) ∧
    (Resample.strategy 2 2 2 1 false = .average ∧ Resample.patch.SameColumn 1 Resample.chipped ∧
      (resample (Bitmap.blank 2 1) Resample.patch Tint.white false).pixel? 0 1 =
        (resample (Bitmap.blank 2 1) Resample.chipped Tint.white false).pixel? 0 1) := by
  have patch : Resample.patch.WellFormed := ⟨by decide, by decide⟩
  have chipped : Resample.chipped.WellFormed := ⟨by decide, by decide⟩
  obtain ⟨rows, -⟩ :=
    resample_unmixed (Bitmap.blank_wellFormed 3 2) patch chipped Tint.white false
  obtain ⟨-, columns⟩ :=
    resample_unmixed (Bitmap.blank_wellFormed 2 1) patch chipped Tint.white false
  refine ⟨⟨patch, chipped⟩, ⟨by decide, Resample.patch_sameRow, ?_, by decide +kernel⟩,
    by decide, Resample.patch_sameColumn, ?_⟩
  · exact rows rfl (by decide) 0 (by decide) Resample.patch_sameRow 1 (by decide)
  · exact columns rfl (by decide) 1 (by decide) Resample.patch_sameColumn 0 (by decide)

end Raster
