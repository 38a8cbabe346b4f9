import Raster.Proofs.Resample.Exact

/-!
Destinations that are whole multiples of their source: each source pixel is repeated for a block of
destination pixels. Where the length of a block divides the 4096 places of a source pixel, the area
of each destination pixel lies within one source pixel, and its average repeats that one as well.
-/

namespace Raster

namespace Resample

/-- The source pixel to which an index belongs, when each is repeated `length` times. -/
def block (length : Nat) (index : UInt32) : UInt32 := UInt32.ofNat (index.toNat / length)

theorem toNat_block (length : Nat) (index : UInt32) :
    (block length index).toNat = index.toNat / length :=
  UInt32.toNat_ofNat_of_lt' (Nat.lt_of_le_of_lt (Nat.div_le_self _ _) index.toNat_lt)

theorem block_one (index : UInt32) : block 1 index = index := by
  rw [block, Nat.div_one, UInt32.ofNat_toNat]

section Multiple

variable {side count : UInt32} {length : Nat} (multiple : count.toNat = length * side.toNat)

include multiple

theorem block_lt {index : UInt32} (inside : index < count) : block length index < side := by
  rw [UInt32.lt_iff_toNat_lt, toNat_block]
  apply Nat.div_lt_of_lt_mul
  rw [← multiple]
  exact UInt32.lt_iff_toNat_lt.mp inside

variable (filled : 0 < side.toNat)

include filled

theorem scaled_eq_block (index : UInt32) :
    index.toNat * side.toNat / count.toNat = (block length index).toNat := by
  rw [multiple, Nat.mul_div_mul_right _ _ filled, toNat_block]

theorem pos_of_multiple (long : 0 < length) : 0 < count := by
  rw [UInt32.lt_iff_toNat_lt, multiple]
  exact Nat.mul_pos long filled

theorem not_shrinks_of_multiple (long : 0 < length) : ¬Shrinks side count := by
  have longer : side.toNat ≤ length * side.toNat := Nat.le_mul_of_pos_left _ long
  rw [Shrinks, multiple]
  omega

section Even

variable {step : Nat} (even : length * step = 4096)

include even

theorem areaSide_of_even : areaSide side count = step := by
  have positive : 0 < length * side.toNat := by
    apply Nat.mul_pos _ filled
    exact Nat.pos_of_mul_pos_right (even ▸ (by decide : 0 < 4096))
  have some : 0 < step := Nat.pos_of_mul_pos_left (even ▸ (by decide : 0 < 4096))
  rw [areaSide, multiple, ← even, Nat.mul_right_comm, Nat.mul_div_cancel_left _ positive]
  exact Nat.max_eq_right some

theorem place_in_block {index : UInt32} {place : Nat} (within : place ∈ areaSpan side count index) :
    place / 4096 = (block length index).toNat := by
  rw [areaSpan, areaSide_of_even multiple filled even, Finset.mem_Ico] at within
  -- Dividing a place by the step gives the index, and dividing that by the length its block.
  rw [toNat_block, ← even, Nat.mul_comm, ← Nat.div_div_eq_div_mul,
    Nat.div_eq_of_lt_le within.1 within.2]

end Even

end Multiple

section Multiples

variable {source : Bitmap} (hasColumns : 0 < source.width.toNat) (hasRows : 0 < source.height.toNat)
  {width height : UInt32} {columns rows : Nat}
  (wide : width.toNat = columns * source.width.toNat)
  (high : height.toNat = rows * source.height.toNat)

include hasColumns hasRows wide high

theorem strategy_of_multiples (someColumns : 0 < columns) (someRows : 0 < rows) :
    strategy source.width source.height width height false = .replicate := by
  have divides : source.width.toNat ∣ width.toNat ∧ source.height.toNat ∣ height.toNat :=
    ⟨Dvd.intro_left columns wide.symm, Dvd.intro_left rows high.symm⟩
  have unshown : ¬(false = true ∨ Shrinks source.width width ∨ Shrinks source.height height) := by
    rintro (forced | shrinks | shrinks)
    · cases forced
    · exact not_shrinks_of_multiple wide hasColumns someColumns shrinks
    · exact not_shrinks_of_multiple high hasRows someRows shrinks
  rw [strategy_eq (UInt32.lt_iff_toNat_lt.mpr hasColumns) (UInt32.lt_iff_toNat_lt.mpr hasRows)
    (pos_of_multiple wide hasColumns someColumns) (pos_of_multiple high hasRows someRows),
    if_neg unshown, if_pos divides]

theorem sample_replicate (y x : UInt32) :
    sample source width height .replicate y.toNat x.toNat =
      (source.pixelAt (block rows y).toNat (block columns x).toNat).toSample := by
  rw [sample, replicateSample, scaled_eq_block wide hasColumns, scaled_eq_block high hasRows]

section Even

variable (narrow : source.width.toNat < 2 ^ 20) (low : source.height.toNat < 2 ^ 20)
  {stepX stepY : Nat} (evenX : columns * stepX = 4096) (evenY : rows * stepY = 4096)

include narrow low evenX evenY

theorem average_weight_lt_of_even : 255 * ((averageStep source.height height).toNat *
    (averageStep source.width width).toNat) < 2 ^ 64 := by
  have divisor {length step : Nat} (even : length * step = 4096) : step ≤ 4096 :=
    Nat.le_of_dvd (by decide) (Dvd.intro_left length even)
  have area : stepY * stepX ≤ 4096 * 4096 := Nat.mul_le_mul (divisor evenY) (divisor evenX)
  rw [toNat_averageStep_of_short low, toNat_averageStep_of_short narrow,
    areaSide_of_even high hasRows evenY, areaSide_of_even wide hasColumns evenX]
  omega

theorem sample_average_of_even {y x : UInt32} (below : y < height) (inside : x < width) :
    sample source width height .average y.toNat x.toNat =
      sample source width height .replicate y.toNat x.toNat := by
  have light := average_weight_lt_of_even hasColumns hasRows wide high narrow low evenX evenY
  have row := UInt32.lt_iff_toNat_lt.mp (block_lt high below)
  have column := UInt32.lt_iff_toNat_lt.mp (block_lt wide inside)
  rw [sample_replicate hasColumns hasRows wide high]
  apply sample_average_of_same hasColumns hasRows narrow low light below inside
  intro j down i across
  rw [place_in_block high hasRows evenY down, place_in_block wide hasColumns evenX across,
    Nat.min_eq_left (by omega), Nat.min_eq_left (by omega)]

end Even

end Multiples

end Resample

section Blocks

variable {destination source : Bitmap} (formed : destination.WellFormed)
  (sourceFormed : source.WellFormed) (filled : source.valid = true) {columns rows : Nat}
  (wide : destination.width.toNat = columns * source.width.toNat)
  (high : destination.height.toNat = rows * source.height.toNat) (tint : Tint)

include formed sourceFormed filled wide high

theorem pixel?_resample_block (someColumns : 0 < columns) (someRows : 0 < rows) {y x : UInt32}
    (below : y < destination.height) (inside : x < destination.width) :
    (Resample.block rows y < source.height ∧ Resample.block columns x < source.width) ∧
    ∃ taken old, source.pixel? (Resample.block rows y) (Resample.block columns x) = some taken ∧
      destination.pixel? y x = some old ∧
      (resample destination source tint false).pixel? y x =
        some (tint.factors.compose taken.toSample old) := by
  obtain ⟨hasColumns, hasRows⟩ := sourceFormed.sides_pos filled
  have choice := Resample.strategy_of_multiples hasColumns hasRows wide high someColumns someRows
  obtain ⟨old, was, became⟩ := pixel?_resample_of_strategy formed filled tint choice below inside
  have row := Resample.block_lt high below
  have column := Resample.block_lt wide inside
  rw [Resample.sample_replicate hasColumns hasRows wide high] at became
  exact ⟨⟨row, column⟩, _, old, sourceFormed.pixel?_eq row column, was, became⟩

end Blocks

/-- In a destination whose sides are whole multiples of those of the source, each source pixel is
laid over a block of what was there. Under a tint that keeps every channel these are the source
pixels themselves, so that a destination of the size of the source becomes the same image. -/
theorem replicate_blocks {destination source : Bitmap} (formed : destination.WellFormed)
    (sourceFormed : source.WellFormed) (filled : source.valid = true) {columns rows : Nat}
    (someColumns : 0 < columns) (someRows : 0 < rows)
    (wide : destination.width.toNat = columns * source.width.toNat)
    (high : destination.height.toNat = rows * source.height.toNat) (tint : Tint) :
    Resample.strategy source.width source.height destination.width destination.height false =
        .replicate ∧
    (∀ y x : UInt32, y < destination.height → x < destination.width →
      (Resample.block rows y < source.height ∧ Resample.block columns x < source.width) ∧
      ∃ taken old, source.pixel? (Resample.block rows y) (Resample.block columns x) = some taken ∧
        destination.pixel? y x = some old ∧
        (resample destination source tint false).pixel? y x =
          some (tint.factors.compose taken.toSample old) ∧
        (tint.factors = ⟨256, 256, 256, 256⟩ →
          (resample destination source tint false).pixel? y x = some taken)) ∧
    (columns = 1 → rows = 1 → tint.factors = ⟨256, 256, 256, 256⟩ →
      (resample destination source tint false).SameImage source) := by
  obtain ⟨hasColumns, hasRows⟩ := sourceFormed.sides_pos filled
  refine ⟨?_, ?_, ?_⟩
  · exact Resample.strategy_of_multiples hasColumns hasRows wide high someColumns someRows
  · intro y x below inside
    obtain ⟨within, taken, old, took, was, became⟩ := pixel?_resample_block formed sourceFormed
      filled wide high tint someColumns someRows below inside
    refine ⟨within, taken, old, took, was, became, ?_⟩
    intro full
    rw [became, compose_toSample_of_full full]
  · rintro rfl rfl full
    have shape := Bitmap.Repaints.resample destination source tint false
    refine ⟨?_, ?_, ?_⟩
    · rw [shape.width, ← UInt32.toNat_inj, wide, Nat.one_mul]
    · rw [shape.height, ← UInt32.toNat_inj, high, Nat.one_mul]
    · rw [shape.width, shape.height]
      intro y x below inside
      obtain ⟨-, taken, old, took, -, became⟩ := pixel?_resample_block formed sourceFormed filled
        wide high tint someColumns someRows below inside
      rw [Resample.block_one, Resample.block_one] at took
      rw [became, took, compose_toSample_of_full full]

namespace Resample

def canvas : Bitmap := ⟨4, 2, 5, Array.replicate 10 ⟨0x7f102030⟩⟩

theorem canvas_wellFormed : canvas.WellFormed := ⟨by decide, Array.size_replicate⟩

end Resample

theorem replicate_blocks_samples :
    (Resample.canvas.WellFormed ∧ Resample.loose.WellFormed ∧ Resample.loose.valid = true ∧
      Resample.strategy 2 1 4 2 false = .replicate ∧
      Resample.block 2 1 = 0 ∧ Resample.block 2 3 = 1 ∧
      (resample Resample.canvas Resample.loose Tint.white false).pixel? 1 3 =
        Resample.loose.pixel? 0 1) ∧
    (Resample.tight.WellFormed ∧
      (resample Resample.tight Resample.loose Tint.white false).SameImage Resample.loose) := by
  have loose : Resample.loose.WellFormed := ⟨by decide, by decide⟩
  have tight : Resample.tight.WellFormed := ⟨by decide, by decide⟩
  obtain ⟨choice, blocks, -⟩ := replicate_blocks Resample.canvas_wellFormed loose (by decide)
    (show 0 < 2 by decide) (show 0 < 2 by decide) rfl rfl Tint.white
  obtain ⟨-, taken, old, took, -, -, copied⟩ := blocks 1 3 (by decide) (by decide)
  obtain ⟨-, -, same⟩ := replicate_blocks tight loose (by decide) Nat.one_pos Nat.one_pos rfl rfl
    Tint.white
  refine ⟨⟨Resample.canvas_wellFormed, loose, by decide, choice, by decide, by decide, ?_⟩,
    tight, same rfl rfl Tint.factors_white⟩
  exact (copied Tint.factors_white).trans took.symm

/-- Where both sides are multiplied by powers of two, averages repeat pixels: bounded loops find
the sample of the block without overflow, and forcing an average changes nothing. -/
theorem average_eq_replicate {destination source : Bitmap} (formed : destination.WellFormed)
    (sourceFormed : source.WellFormed) (filled : source.valid = true)
    (narrow : source.width.toNat < 2 ^ 20) (low : source.height.toNat < 2 ^ 20) {p q : Nat}
    (fewColumns : p ≤ 12) (fewRows : q ≤ 12)
    (wide : destination.width.toNat = 2 ^ p * source.width.toNat)
    (high : destination.height.toNat = 2 ^ q * source.height.toNat) (tint : Tint) :
    (Resample.strategy source.width source.height destination.width destination.height true =
        .average ∧
      Resample.strategy source.width source.height destination.width destination.height false =
        .replicate) ∧
    (∀ y x : UInt32, y < destination.height → x < destination.width →
      Resample.averageSample? source (Resample.averageStep source.width destination.width)
          (Resample.averageStep source.height destination.height) y x =
        some (Resample.sample source destination.width destination.height .replicate y.toNat
          x.toNat)) ∧
    resample destination source tint true = resample destination source tint false := by
  obtain ⟨hasColumns, hasRows⟩ := sourceFormed.sides_pos filled
  have evenX : 2 ^ p * 2 ^ (12 - p) = 4096 := pow_mul_pow_sub 2 fewColumns
  have evenY : 2 ^ q * 2 ^ (12 - q) = 4096 := pow_mul_pow_sub 2 fewRows
  have light := Resample.average_weight_lt_of_even hasColumns hasRows wide high narrow low evenX
    evenY
  have same (y x : UInt32) (below : y < destination.height) (inside : x < destination.width) :=
    Resample.sample_average_of_even hasColumns hasRows wide high narrow low evenX evenY below inside
  have forced := Resample.strategy_forced source.width source.height destination.width
    destination.height
  have repeated := Resample.strategy_of_multiples hasColumns hasRows wide high
    (Nat.two_pow_pos p) (Nat.two_pow_pos q)
  refine ⟨⟨forced, repeated⟩, ?_, resample_congr formed tint forced repeated same⟩
  intro y x below inside
  rw [← same y x below inside, Resample.sample_average, UInt32.ofNat_toNat, UInt32.ofNat_toNat]
  exact Resample.averageSample?_eq_some sourceFormed hasColumns hasRows
    (Resample.averageStep_ne_zero _ _) (Resample.averageStep_ne_zero _ _) light
    (Resample.end_of_area_lt low (UInt32.lt_iff_toNat_lt.mp below))
    (Resample.end_of_area_lt narrow (UInt32.lt_iff_toNat_lt.mp inside))

theorem average_eq_replicate_samples :
    (Resample.loose.WellFormed ∧ Resample.loose.valid = true ∧
      Resample.averageSample? Resample.loose (Resample.averageStep 2 4) (Resample.averageStep 1 4)
          3 2 = some (Resample.sample Resample.loose 4 4 .replicate 3 2) ∧
      resample (Bitmap.blank 4 4) Resample.loose Tint.white true =
        resample (Bitmap.blank 4 4) Resample.loose Tint.white false ∧
      (resample (Bitmap.blank 4 4) Resample.loose Tint.white true).pixel? 3 2 =
        some ⟨0x81223344⟩) ∧
    (Resample.tight.WellFormed ∧
      resample Resample.tight Resample.loose Tint.white true =
        resample Resample.tight Resample.loose Tint.white false) := by
  have loose : Resample.loose.WellFormed := ⟨by decide, by decide⟩
  have tight : Resample.tight.WellFormed := ⟨by decide, by decide⟩
  obtain ⟨-, found, same⟩ := average_eq_replicate (Bitmap.blank_wellFormed 4 4) loose
    (by decide) (by decide) (by decide) (show 1 ≤ 12 by decide) (show 2 ≤ 12 by decide) rfl rfl
    Tint.white
  obtain ⟨-, -, unscaled⟩ := average_eq_replicate tight loose (by decide) (by decide) (by decide)
    (Nat.zero_le 12) (Nat.zero_le 12) rfl rfl Tint.white
  refine ⟨⟨loose, by decide, found 3 2 (by decide) (by decide), same, ?_⟩, tight, unscaled⟩
  decide +kernel

end Raster
